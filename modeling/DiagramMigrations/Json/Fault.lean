/-!
What can be wrong with a JSON text, apart from what it says.
-/

set_option autoImplicit false
set_option relaxedAutoImplicit false

namespace DiagramMigrations.Json

/-- A reason why a text is not a JSON text that can be read. -/
inductive Fault
  | endInList
  | endInObject
  | endInText
  | endInValue
  | colonExpected
  | commaOrBracketExpected
  | commaOrBraceExpected
  | wordExpected
  | valueExpected
  | keyExpected
  | badEscape
  | badNumber
  | numberOutOfRange
  | controlCharacter
  | loneSurrogate
  | unfinishedPair
  | trailingComma
  | trailingCharacters
  | tooDeep
  deriving DecidableEq, Repr

namespace Fault

/-- Whether the text only ends too early. -/
def isTruncation : Fault → Bool
  | endInList | endInObject | endInText | endInValue => true
  | _ => false

/-- The wording of a fault. -/
def message : Fault → String
  | endInList => "EOF while parsing a list"
  | endInObject => "EOF while parsing an object"
  | endInText => "EOF while parsing a string"
  | endInValue => "EOF while parsing a value"
  | colonExpected => "expected `:`"
  | commaOrBracketExpected => "expected `,` or `]`"
  | commaOrBraceExpected => "expected `,` or `\x7d`"
  | wordExpected => "expected ident"
  | valueExpected => "expected value"
  | keyExpected => "key must be a string"
  | badEscape => "invalid escape"
  | badNumber => "invalid number"
  | numberOutOfRange => "number out of range"
  | controlCharacter => "control character (\\u0000-\\u001F) found while parsing a string"
  | loneSurrogate => "lone leading surrogate in hex escape"
  | unfinishedPair => "unexpected end of hex escape"
  | trailingComma => "trailing comma"
  | trailingCharacters => "trailing characters"
  | tooDeep => "recursion limit exceeded"

end Fault

/-- A place where a text goes wrong: for one who reads the value there, and for one who only passes
over it. Some faults, such as a lone surrogate, do not stop the latter. -/
structure Break where
  read : Fault
  skip : Option Fault
  deriving DecidableEq, Repr

/-- A fault that stops a reader of either kind. -/
def Break.both (fault : Fault) : Break :=
  ⟨fault, some fault⟩

end DiagramMigrations.Json
