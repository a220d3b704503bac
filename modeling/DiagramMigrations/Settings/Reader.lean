import DiagramMigrations.Calendar.Reader
import DiagramMigrations.Settings.Basic
import DiagramMigrations.Settings.Token

/-!
Settings read from a TOML text: lines that give a value to a setting, each setting at most once. As
every setting is a text or a truth value, nothing else can be right.
-/

set_option autoImplicit false
set_option relaxedAutoImplicit false

namespace DiagramMigrations.Settings

/-- The value of a setting. -/
inductive Value
  | text (value : String)
  | flag (value : Bool)
  deriving DecidableEq, Repr

/-- A token as a key. -/
def key? : Token → Option String
  | .word text | .text text false => some text
  | _ => none

/-- A token as a value. -/
def value? : Token → Option Value
  | .text value _ => some (.text value)
  | .word "true" => some (.flag true)
  | .word "false" => some (.flag false)
  | _ => none

/-- The assignment on a line, if the line is not empty. -/
def assignment (line : List Token) : Except SettingsFault (Option (String × Value)) :=
  match line with
  | [] => .ok none
  | [key, .equals, value] =>
    match key? key, value? value with
    | some key, some value => .ok (some (key, value))
    | _, _ => .error (.unreadable "neither a text nor a truth value is assigned")
  | _ => .error (.unreadable "a line is no assignment")

/-- The assignments of a text, in order. -/
def assignments (text : String) : Except SettingsFault (List (String × Value)) := do
  let lines ← ((tokens text.toList).splitOn .lineEnd).mapM assignment
  return lines.filterMap id

/-- Gives a value to a setting. -/
def assign (s : Settings) (entry : String × Value) : Except SettingsFault Settings :=
  match entry with
  | ("output_dir", .text text) => .ok { s with outputDirectory := text }
  | ("extension", .text text) => .ok { s with extension := text }
  | ("enums_dir", .text text) => .ok { s with enumsDirectory := text }
  | ("enum_namespace", .text text) => .ok { s with enumNamespace := text }
  | ("generate_enums", .flag value) => .ok { s with generateEnums := value }
  | ("timestamp", .text text) =>
    match Calendar.parseLoose? text with
    | some timestamp => .ok { s with timestamp := some timestamp }
    | none => .error (.unreadable "a timestamp is malformed")
  | (key, _) => .error (.unreadable ("the setting or its type is unknown: " ++ key))

/-- Reads settings without judging them. -/
def read (text : String) : Except SettingsFault Settings := do
  let entries ← assignments text
  if (entries.map Prod.fst).Nodup then entries.foldlM assign {}
  else throw (.unreadable "a setting is repeated")

/-- Reads settings that nothing is wrong with. -/
def parse (text : String) : Except Failure Settings := do
  let s ← (read text).mapError (Failure.settings none)
  s.check
  return s

end DiagramMigrations.Settings
