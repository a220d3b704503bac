import DiagramMigrations.Json.Value

/-!
The text of a JSON value: in full, with one member or element a line and two blanks for each level,
or compact, without any white space.
-/

set_option autoImplicit false
set_option relaxedAutoImplicit false

namespace DiagramMigrations.Json

/-- The hexadecimal digits, small. -/
def hexDigit (n : Nat) : Char :=
  if n < 10 then Char.ofNat (48 + n) else Char.ofNat (87 + n)

/-- A character of a text. Quotes, backslashes and control characters are escaped. -/
def escapeChar (c : Char) : List Char :=
  if c = '"' then ['\\', '"']
  else if c = '\\' then ['\\', '\\']
  else if c = '\x08' then ['\\', 'b']
  else if c = '\t' then ['\\', 't']
  else if c = '\n' then ['\\', 'n']
  else if c = '\x0C' then ['\\', 'f']
  else if c = '\r' then ['\\', 'r']
  else if c.toNat < 32 then
    ['\\', 'u', '0', '0', hexDigit (c.toNat / 16), hexDigit (c.toNat % 16)]
  else [c]

/-- A text between quotes. -/
def quoted (s : String) : List Char :=
  '"' :: s.toList.flatMap escapeChar ++ ['"']

/-- The line break and the white space before a line of a level. -/
def lineStart (level : Nat) : List Char :=
  '\n' :: List.replicate (2 * level) ' '

mutual

/-- The full text of a value whose first line stands at a level. -/
def pretty (level : Nat) : Json → List Char
  | .null => "null".toList
  | .boolean true => "true".toList
  | .boolean false => "false".toList
  | .number value => value.text.toList
  | .text value => quoted value
  | .array [] => ['[', ']']
  | .array (item :: rest) =>
    '[' :: lineStart (level + 1) ++ pretty (level + 1) item ++ prettyItems (level + 1) rest ++
      lineStart level ++ [']']
  | .object [] => ['\x7b', '\x7d']
  | .object ((key, value) :: rest) =>
    '\x7b' :: lineStart (level + 1) ++ quoted key ++ [':', ' '] ++ pretty (level + 1) value ++
      prettyMembers (level + 1) rest ++ lineStart level ++ ['\x7d']

/-- The elements after the first, each on a line of its own. -/
def prettyItems (level : Nat) : List Json → List Char
  | [] => []
  | item :: rest => ',' :: lineStart level ++ pretty level item ++ prettyItems level rest

/-- The members after the first, each on a line of its own. -/
def prettyMembers (level : Nat) : List (String × Json) → List Char
  | [] => []
  | (key, value) :: rest =>
    ',' :: lineStart level ++ quoted key ++ [':', ' '] ++ pretty level value ++
      prettyMembers level rest

end

mutual

/-- The text of a value without white space. -/
def compact : Json → List Char
  | .null => "null".toList
  | .boolean true => "true".toList
  | .boolean false => "false".toList
  | .number value => value.text.toList
  | .text value => quoted value
  | .array [] => ['[', ']']
  | .array (item :: rest) => '[' :: compact item ++ compactItems rest ++ [']']
  | .object [] => ['\x7b', '\x7d']
  | .object ((key, value) :: rest) =>
    '\x7b' :: quoted key ++ [':'] ++ compact value ++ compactMembers rest ++ ['\x7d']

/-- The elements after the first. -/
def compactItems : List Json → List Char
  | [] => []
  | item :: rest => ',' :: compact item ++ compactItems rest

/-- The members after the first. -/
def compactMembers : List (String × Json) → List Char
  | [] => []
  | (key, value) :: rest => ',' :: quoted key ++ [':'] ++ compact value ++ compactMembers rest

end

/-- The full text of a value. -/
def render (value : Json) : String :=
  String.ofList (pretty 0 value)

/-- The compact text of a value. -/
def renderCompact (value : Json) : String :=
  String.ofList (compact value)

end DiagramMigrations.Json
