import DiagramMigrations.Text.Ascii
import DiagramMigrations.Text.Blank

/-!
Default values. The word `null` marks a nullable column; any other text is a literal, which is
written out as it stands.
-/

set_option autoImplicit false
set_option relaxedAutoImplicit false

namespace DiagramMigrations

/-- The default of a column. -/
inductive Default
  | null
  | literal (text : String)
  deriving DecidableEq, Repr

/-- Reads a default; a blank text gives none. -/
def Default.parse? (text : String) : Option Default :=
  let value := Text.trimmed text
  if value = "" then none
  else if Text.equalIgnoringAsciiCase value "null" then some .null
  else some (.literal value)

end DiagramMigrations
