import DiagramMigrations.Binary64
import DiagramMigrations.Project.Basic

/-!
Summaries of a project: a line for notices, and a box for the terminal.
-/

set_option autoImplicit false
set_option relaxedAutoImplicit false

namespace DiagramMigrations

/-- The figures of a project. -/
structure Summary where
  name : String
  tables : Nat
  enumerations : Nat
  files : Nat
  warnings : Nat
  bytes : Nat
  deriving DecidableEq, Repr

namespace Summary

/-- The summary of a project. -/
def ofProject (p : Project) : Summary where
  name := p.name
  tables := (p.filesOf .migration).length
  enumerations := (p.filesOf .enumeration).length
  files := p.files.length
  warnings := p.warnings.length
  bytes := p.size

/-- The line for notices. -/
def message (s : Summary) : String :=
  "Generated " ++ toString s.tables ++ " migration(s) and " ++ toString s.enumerations ++
    " enum class(es)"

/-- A text with blanks after it, up to a width. -/
def padRight (width : Nat) (text : String) : String :=
  String.ofList (text.toList ++ List.replicate (width - text.length) ' ')

/-- A number of bytes in a unit, with one decimal place; the number is a floating-point number, and
a half goes to the even neighbour. -/
def inUnit (bytes unit : Nat) : String :=
  let (num, den) := ((Binary64.nearest false bytes 1).map Binary64.magnitude).getD (bytes, 1)
  let tenths := Binary64.roundDiv (num * 10) (den * unit)
  toString (tenths / 10) ++ "." ++ toString (tenths % 10)

/-- A size for people: bytes, and from 1024 of a unit on the next. -/
def sizeText (bytes : Nat) : String :=
  if bytes < 1024 then toString bytes ++ " B"
  else if bytes < 1024 * 1024 then inUnit bytes 1024 ++ " KB"
  else inUnit bytes (1024 * 1024) ++ " MB"

/-- A row of the box. -/
def row (label value : String) : String :=
  "║  " ++ padRight 14 label ++ padRight 34 value ++ "║\n"

/-- The box. -/
def box (s : Summary) : String :=
  "╔══════════════════════════════════════════════════╗\n" ++
  "║         Code Generation Complete                 ║\n" ++
  "╠══════════════════════════════════════════════════╣\n" ++
  row "Diagram:" s.name ++
  row "Migrations:" (toString s.tables) ++
  row "Enum classes:" (toString s.enumerations) ++
  row "Total Files:" (toString s.files) ++
  row "Warnings:" (toString s.warnings) ++
  row "Total Size:" (sizeText s.bytes) ++
  "╚══════════════════════════════════════════════════╝\n"

end Summary

end DiagramMigrations
