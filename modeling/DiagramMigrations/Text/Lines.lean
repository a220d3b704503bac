/-!
The lines of a text. A line ends with a line feed, which may follow a carriage return; neither
belongs to the line, and the end of the text needs none.
-/

set_option autoImplicit false
set_option relaxedAutoImplicit false

namespace DiagramMigrations.Text

/-- Drops a carriage return at the end of a line that is given in reverse order. -/
def dropReturn : List Char → List Char
  | '\r' :: rest => rest
  | cs => cs

/-- Reads lines; `line` holds the characters of the current one in reverse order. -/
def linesFrom (line : List Char) : List Char → List (List Char)
  | [] => if line = [] then [] else [line.reverse]
  | c :: rest =>
    if c = '\n' then (dropReturn line).reverse :: linesFrom [] rest
    else linesFrom (c :: line) rest

/-- The lines of a text. -/
def lines (cs : List Char) : List (List Char) :=
  linesFrom [] cs

end DiagramMigrations.Text
