/-!
Styled text for terminals: a control sequence sets a style, and another ends it.
-/

set_option autoImplicit false
set_option relaxedAutoImplicit false

namespace DiagramMigrations.Console

/-- A style. -/
inductive Style
  | success
  | error
  | warning
  | hint
  | heading
  | strong
  | faint
  deriving DecidableEq, Repr

/-- The parameters of the control sequence for a style. -/
def Style.parameters : Style → String
  | success => "1;32"
  | error => "1;31"
  | warning => "1;33"
  | hint => "36"
  | heading => "1;4"
  | strong => "1"
  | faint => "2"

/-- The sequence that sets a style. -/
def Style.opening (style : Style) : List Char :=
  '\x1b' :: '[' :: style.parameters.toList ++ ['m']

/-- The sequence that ends a style. -/
def closing : List Char :=
  ['\x1b', '[', '0', 'm']

/-- Sets a style again behind every sequence that ends it inside a text. -/
def resume (opening : List Char) : List Char → List Char
  | '\x1b' :: '[' :: '0' :: 'm' :: rest => closing ++ opening ++ resume opening rest
  | c :: rest => c :: resume opening rest
  | [] => []

/-- A text in a style, where the terminal has colours. -/
def Style.paint (style : Style) (colours : Bool) (text : String) : String :=
  if colours then
    String.ofList (style.opening ++ resume style.opening text.toList ++ closing)
  else text

end DiagramMigrations.Console
