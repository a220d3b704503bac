import DiagramMigrations.Console.Output
import DiagramMigrations.Diagram.File
import DiagramMigrations.EnumClass.Registry
import DiagramMigrations.Schema.Extraction
import DiagramMigrations.Schema.Order
import DiagramMigrations.Schema.Rules

/-!
The commands that look at a diagram and compile nothing: one judges it, the other shows what is on
it.
-/

set_option autoImplicit false
set_option relaxedAutoImplicit false

namespace DiagramMigrations.Console

variable {m : Type → Type} [Monad m]

/-- Loads a diagram and looks at its schema. -/
def inspect (disk : Disk m) (colours : Bool) (path : String) (look : Schema → Session) :
    m Session := do
  match ← Diagram.load disk path with
  | .error failure =>
    return .ofFailure colours ("failed to load " ++ path ++ ": ") failure.message
  | .ok diagram => return look (Schema.ofDiagram diagram)

/-- The lines for an error of a validation. -/
def validationErrorLines (colours : Bool) (e : ValidationError) : List Printed :=
  errorLine colours e.display :: (e.suggestion.map (hintLine colours)).toList

/-- The lines for a report. -/
def reportLines (colours : Bool) (r : Report) : List Printed :=
  r.warnings.map (fun w ↦ warningLine colours w.display) ++
    r.errors.flatMap (validationErrorLines colours)

/-- The line for a schema that can be compiled. -/
def validityLine (colours : Bool) (path : String) (s : Schema) (r : Report) : Printed :=
  successLine colours (path ++ " is valid: " ++ toString s.tables.length ++ " table(s), " ++
    toString s.enumerations.length ++ " enumeration(s), " ++ toString s.associations.length ++
    " foreign key(s), " ++ toString r.warnings.length ++ " warning(s)")

/-- The session of judging a schema. -/
def judge (colours : Bool) (path : String) (s : Schema) : Session :=
  let report := s.validate
  let lines := reportLines colours report
  if report.hasErrors then ⟨lines, .aborted⟩
  else
    match dependencyOrder s.tables s.associations with
    | .error failure => ⟨lines ++ [errorLine colours failure.message], .aborted⟩
    | .ok _ => ⟨lines ++ [validityLine colours path s report], .success⟩

/-- Carries out the judging of a diagram. -/
def validate (disk : Disk m) (colours : Bool) (path : String) : m Session :=
  inspect disk colours path (judge colours path)

/-- A number in at least two places. -/
def inTwoPlaces (n : Nat) : String :=
  if n < 10 then " " ++ toString n else toString n

/-- Names with commas between them, or a dash. -/
def nameList (names : List String) : String :=
  if names = [] then "-" else ", ".intercalate names

/-- The line for a table. -/
def tableLine (colours : Bool) (number : Nat) (t : Table) : Printed :=
  printLine ("  " ++ inTwoPlaces number ++ ". " ++ Style.strong.paint colours t.name ++ " (" ++
    Naming.identifier t.name ++ ") - " ++ toString t.columns.length ++
    " column(s), primary key: " ++ nameList (t.primaryKey.map Column.name))

/-- The line for a foreign key. -/
def foreignKeyLine (colours : Bool) (s : Schema) (a : Association) : Printed :=
  let target := ((s.table? a.referencedTable).map fun t ↦ Naming.identifier t.name).getD ""
  printLine ("        " ++ Style.faint.paint colours "fk" ++ " " ++ a.referencingColumn ++ " → " ++
    target ++ "." ++ a.referencedColumn)

/-- The line for a column that takes the literals of an enumeration. -/
def enumColumnLine? (colours : Bool) (c : Column) : Option Printed :=
  c.enumeration?.map fun name ↦
    printLine ("        " ++ Style.faint.paint colours "enum" ++ " " ++ c.name ++ " → " ++ name)

/-- The lines for a table. -/
def tableLines (colours : Bool) (s : Schema) (number : Nat) (t : Table) : List Printed :=
  tableLine colours number t :: (s.outgoing t.id).map (foreignKeyLine colours s) ++
    t.columns.filterMap (enumColumnLine? colours)

/-- The tables in the order of creation, or as they stand if there is none, with a warning. -/
def orderedTables (colours : Bool) (s : Schema) : List Printed × List Table :=
  match dependencyOrder s.tables s.associations with
  | .ok order => ([], order.filterMap fun i ↦ s.tables[i]?)
  | .error failure => ([warningLine colours failure.message], s.tables)

/-- The line for an enumeration. -/
def enumerationLine (colours : Bool) (r : EnumRegistry) (name : String) : Printed :=
  printLine ("  " ++ Style.strong.paint colours name ++ " [" ++
    ", ".intercalate ((r.keys? name).getD []) ++ "]")

/-- Lines, or a line that says that there are none. -/
def linesOrNone (lines : List Printed) : List Printed :=
  if lines.isEmpty then [printLine "  (none)"] else lines

/-- The session of showing a schema. -/
def describe (colours : Bool) (s : Schema) : Session :=
  let (warnings, tables) := orderedTables colours s
  let registry := EnumRegistry.ofSchema s
  { printed :=
      [printLine (Style.strong.paint colours "Diagram:" ++ " " ++ s.name), printLine "",
        printLine (Style.heading.paint colours "Tables")] ++ warnings ++
      linesOrNone (tables.zipIdx.flatMap fun (t, i) ↦ tableLines colours s (i + 1) t) ++
      [printLine "", printLine (Style.heading.paint colours "Enumerations")] ++
      linesOrNone (registry.names.map (enumerationLine colours registry))
    ending := .success }

/-- Carries out the showing of a diagram. -/
def info (disk : Disk m) (colours : Bool) (path : String) : m Session :=
  inspect disk colours path (describe colours)

end DiagramMigrations.Console
