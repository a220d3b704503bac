import DiagramMigrations.Json.Token

/-!
The tokens of a TOML text that holds texts and truth values only: words, quoted texts, equals signs
and line ends. They are found by a machine that reads one character at a time. Whatever else TOML
has begins with a stray character.
-/

set_option autoImplicit false
set_option relaxedAutoImplicit false

namespace DiagramMigrations.Settings

/-- A token. A quoted text on several lines cannot be a key. -/
inductive Token
  | word (text : String)
  | text (value : String) (severalLines : Bool)
  | equals
  | lineEnd
  | stray
  deriving DecidableEq, Repr

/-- The two kinds of quotes: between double ones there are escapes. -/
inductive Quote
  | double
  | single
  deriving DecidableEq, Repr

/-- The character of a quote. -/
def Quote.char : Quote → Char
  | double => '"'
  | single => '\''

/-- What is being read inside a quoted text. -/
inductive Inside
  | plain
  | quotes (count : Nat)
  | escape
  | code (missing value : Nat)
  | lineFeed
  | escapedBlank
  | escapedReturn
  | skipped
  | skippedReturn
  deriving DecidableEq, Repr

/-- Where the machine stands; texts are kept in reverse order. -/
inductive Mode
  | between
  | afterReturn
  | comment
  | word (text : List Char)
  | opening (quote : Quote) (count : Nat)
  | line (quote : Quote) (text : List Char) (inside : Inside)
  | first (quote : Quote)
  | several (quote : Quote) (text : List Char) (inside : Inside)
  | failed
  deriving DecidableEq, Repr

/-- The characters of words. -/
def isWordChar (c : Char) : Bool :=
  ('a' ≤ c && c ≤ 'z') || ('A' ≤ c && c ≤ 'Z') || ('0' ≤ c && c ≤ '9') || c = '_' || c = '-'

/-- The characters that may stand in texts and comments: no controls but the tabulator. -/
def isTextChar (c : Char) : Bool :=
  c = '\t' || (32 ≤ c.toNat && c.toNat ≠ 127)

/-- The character of an escape of one letter. -/
def escaped? (c : Char) : Option Char :=
  match c with
  | 'b' => some '\x08'
  | 't' => some '\t'
  | 'n' => some '\n'
  | 'f' => some '\x0C'
  | 'r' => some '\r'
  | '"' => some '"'
  | '\\' => some '\\'
  | _ => none

/-- The state after the letter of an escape: the text and what is read next. -/
def afterEscape (text : List Char) (c : Char) : Option (List Char × Inside) :=
  if c = 'u' then some (text, .code 4 0)
  else if c = 'U' then some (text, .code 8 0)
  else (escaped? c).map fun d ↦ (d :: text, .plain)

/-- The state after a digit of a character's number. -/
def afterDigit (text : List Char) (missing value : Nat) (c : Char) :
    Option (List Char × Inside) := do
  let value := value * 16 + (← Json.hexValue? c)
  if 1 < missing then some (text, .code (missing - 1) value)
  else if value.isValidChar then some (Char.ofNat value :: text, .plain)
  else none

namespace Mode

/-- The text does not go on like this. -/
def fail : List Token × Mode := ([.stray], failed)

/-- The first character of a token. -/
def start (c : Char) : List Token × Mode :=
  if c = ' ' ∨ c = '\t' then ([], between)
  else if c = '\n' then ([.lineEnd], between)
  else if c = '\r' then ([], afterReturn)
  else if c = '#' then ([], comment)
  else if c = '=' then ([.equals], between)
  else if c = '"' then ([], opening .double 1)
  else if c = '\'' then ([], opening .single 1)
  else if isWordChar c then ([], word [c])
  else fail

/-- A character of a text on one line. -/
def stepLine (quote : Quote) (text : List Char) (inside : Inside) (c : Char) :
    List Token × Mode :=
  let go (next : Option (List Char × Inside)) : List Token × Mode :=
    match next with
    | some (text, inside) => ([], line quote text inside)
    | none => fail
  match inside with
  | .escape => go (afterEscape text c)
  | .code missing value => go (afterDigit text missing value c)
  | _ =>
    if c = quote.char then ([.text (String.ofList text.reverse) false], between)
    else if quote = .double ∧ c = '\\' then go (some (text, .escape))
    else go (if isTextChar c then some (c :: text, .plain) else none)

/-- A character in the plain part of a text on several lines. -/
def stepPlain (quote : Quote) (text : List Char) (c : Char) : List Token × Mode :=
  if c = quote.char then ([], several quote text (.quotes 1))
  else if quote = .double ∧ c = '\\' then ([], several quote text .escape)
  else if c = '\n' then ([], several quote (c :: text) .plain)
  else if c = '\r' then ([], several quote text .lineFeed)
  else if isTextChar c then ([], several quote (c :: text) .plain)
  else fail

/-- The token of a text on several lines that has ended with quotes, three of which close it. -/
def closeSeveral (quote : Quote) (text : List Char) (count : Nat) : Token :=
  .text (String.ofList (List.replicate (count - 3) quote.char ++ text).reverse) true

/-- A character of a text on several lines. -/
def stepSeveral (quote : Quote) (text : List Char) (inside : Inside) (c : Char) :
    List Token × Mode :=
  match inside with
  | .plain => stepPlain quote text c
  | .quotes count =>
    if c = quote.char then
      if count = 4 then ([closeSeveral quote text 5], between)
      else ([], several quote text (.quotes (count + 1)))
    else if 3 ≤ count then
      let (tokens, mode) := start c
      (closeSeveral quote text count :: tokens, mode)
    else stepPlain quote (List.replicate count quote.char ++ text) c
  | .lineFeed => if c = '\n' then ([], several quote (c :: text) .plain) else fail
  | .escape =>
    if c = ' ' ∨ c = '\t' then ([], several quote text .escapedBlank)
    else if c = '\n' then ([], several quote text .skipped)
    else if c = '\r' then ([], several quote text .escapedReturn)
    else
      match afterEscape text c with
      | some (text, inside) => ([], several quote text inside)
      | none => fail
  | .code missing value =>
    match afterDigit text missing value c with
    | some (text, inside) => ([], several quote text inside)
    | none => fail
  | .escapedBlank =>
    if c = ' ' ∨ c = '\t' then ([], several quote text .escapedBlank)
    else if c = '\n' then ([], several quote text .skipped)
    else if c = '\r' then ([], several quote text .escapedReturn)
    else fail
  | .escapedReturn | .skippedReturn =>
    if c = '\n' then ([], several quote text .skipped) else fail
  | .skipped =>
    if c = ' ' ∨ c = '\t' ∨ c = '\n' then ([], several quote text .skipped)
    else if c = '\r' then ([], several quote text .skippedReturn)
    else stepPlain quote text c

/-- One character: the tokens that it completes and where the machine stands after it. -/
def step : Mode → Char → List Token × Mode
  | between, c => start c
  | failed, _ => ([], failed)
  | afterReturn, c => if c = '\n' then ([.lineEnd], between) else fail
  | comment, c =>
    if c = '\n' then ([.lineEnd], between)
    else if c = '\r' then ([], afterReturn)
    else if isTextChar c then ([], comment)
    else fail
  | word text, c =>
    if isWordChar c then ([], word (c :: text))
    else
      let (tokens, mode) := start c
      (.word (String.ofList text.reverse) :: tokens, mode)
  | opening quote count, c =>
    if c = quote.char then
      if count = 1 then ([], opening quote 2) else ([], first quote)
    else if count = 1 then stepLine quote [] .plain c
    else
      let (tokens, mode) := start c
      (.text "" false :: tokens, mode)
  | line quote text inside, c => stepLine quote text inside c
  | first quote, c =>
    if c = '\n' then ([], several quote [] .plain)
    else if c = '\r' then ([], several quote [] .skippedReturn)
    else stepPlain quote [] c
  | several quote text inside, c => stepSeveral quote text inside c

/-- The token that the end of the text completes or cuts short. -/
def finish : Mode → List Token
  | between | comment | failed => []
  | word text => [.word (String.ofList text.reverse)]
  | opening _ 2 => [.text "" false]
  | several quote text (.quotes count) =>
    if 3 ≤ count then [closeSeveral quote text count] else [.stray]
  | _ => [.stray]

end Mode

/-- The tokens of a text that the machine reads from a mode. -/
def tokensFrom : Mode → List Char → List Token
  | mode, [] => mode.finish
  | mode, c :: rest =>
    let (tokens, mode) := mode.step c
    tokens ++ tokensFrom mode rest

/-- The tokens of a text, which may start with a byte order mark. -/
def tokens : List Char → List Token
  | '\uFEFF' :: rest => tokensFrom .between rest
  | cs => tokensFrom .between cs

end DiagramMigrations.Settings
