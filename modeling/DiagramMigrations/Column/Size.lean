import DiagramMigrations.Text.Ascii
import DiagramMigrations.Text.Blank

/-!
Length and precision arguments, taken from the multiplicity of an attribute. A multiplicity of the
form `a..b` gives two arguments; any other text is passed on as one.
-/

set_option autoImplicit false
set_option relaxedAutoImplicit false

namespace DiagramMigrations

/-- The arguments that follow a column's name. -/
inductive Size
  | pair (total places : String)
  | raw (text : String)
  deriving DecidableEq, Repr

namespace Size

/-- Cuts a text at every `..`, reading from the left. -/
def cutAtDots : List Char → List (List Char)
  | [] => [[]]
  | '.' :: '.' :: rest => [] :: cutAtDots rest
  | c :: rest =>
    match cutAtDots rest with
    | [] => [[c]]
    | part :: parts => (c :: part) :: parts

/-- The arguments of a trimmed text: a pair if the text has two parts that are not blank. -/
def ofTrimmed (cs : List Char) : Size :=
  match (cutAtDots cs).map Text.trim with
  | [total, places] =>
    if total = [] ∨ places = [] then raw (String.ofList cs)
    else pair (String.ofList total) (String.ofList places)
  | _ => raw (String.ofList cs)

/-- Reads a multiplicity; a blank one gives no arguments. -/
def parse? (text : String) : Option Size :=
  let cs := Text.trim text.toList
  if cs = [] then none else some (ofTrimmed cs)

/-- The arguments as they stand in the call. -/
def render : Size → String
  | pair total places => total ++ ", " ++ places
  | raw text => text

/-- Whether the arguments are neither a pair nor a plain number, and so probably a mistake. -/
def isUnsplit : Size → Bool
  | pair _ _ => false
  | raw text => !text.toList.all Text.isAsciiDigit

end Size

end DiagramMigrations
