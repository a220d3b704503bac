import DiagramMigrations.Naming
import DiagramMigrations.Schema.Basic
import DiagramMigrations.Schema.Report

/-!
The rules a schema is validated by. Without tables there is nothing to compile, and a classification
must not declare a foreign key; all else that looks wrong is only warned about.
-/

set_option autoImplicit false
set_option relaxedAutoImplicit false

namespace DiagramMigrations

/-- A rule. -/
inductive Rule
  | tables
  | columns
  | associations
  | enumerations
  deriving DecidableEq, Repr

namespace Rule

/-- The name of a rule. -/
def name : Rule → String
  | tables => "tables"
  | columns => "columns"
  | associations => "associations"
  | enumerations => "enumerations"

/-- Every rule, in the order they are applied. -/
def all : List Rule := [tables, columns, associations, enumerations]

/-- There is no table. -/
def noTables : ValidationError where
  code := .noTables
  message := "No tables found"
  suggestion := some "Set the classification of at least one class to 'Table'"

/-- A table has no name that can be used. -/
def emptyTableName (t : Table) : ValidationWarning where
  code := .emptyTableName
  message := "Table '" ++ t.name ++
    "' has no usable name; its migration creates a table without a name"
  path := some ("tables." ++ t.id)

/-- Two tables come to the same name. -/
def duplicateTableName (previous : String) (t : Table) : ValidationWarning where
  code := .duplicateTableName
  message := "Tables '" ++ previous ++ "' and '" ++ t.name ++ "' both map to '" ++
    Naming.identifier t.name ++
    "'; their migrations declare the same class and table and will collide when run"
  path := some ("tables." ++ t.name)

/-- The warning about a table after the tables before it: the last of those with the same name is
named in it. -/
def tableWarning? (before : List Table) (t : Table) : Option ValidationWarning :=
  if Naming.identifier t.name = "" then some (emptyTableName t)
  else
    (before.reverse.find? fun s ↦ Naming.identifier s.name = Naming.identifier t.name).map
      fun s ↦ duplicateTableName s.name t

/-- A list with what stands before each of its elements. -/
def withPrevious {α : Type} (before : List α) : List α → List (List α × α)
  | [] => []
  | x :: rest => (before, x) :: withPrevious (before ++ [x]) rest

/-- The findings on the tables. -/
def tablesReport (s : Schema) : Report :=
  if s.tables = [] then .ofError noTables
  else .ofWarnings ((withPrevious [] s.tables).filterMap fun (before, t) ↦ tableWarning? before t)

/-- The path of a column. -/
def columnPath (t : Table) (c : Column) : String :=
  "tables." ++ t.name ++ ".columns." ++ c.name

/-- A column has no name. -/
def emptyColumnName (t : Table) : ValidationWarning where
  code := .emptyColumnName
  message := "Table '" ++ t.name ++
    "' has a column without a name; it is left out of the migration"
  path := some ("tables." ++ t.name)

/-- A column of the same name stands before this one. -/
def duplicateColumnName (t : Table) (c : Column) : ValidationWarning where
  code := .duplicateColumnName
  message := "Column '" ++ c.name ++ "' is declared more than once in '" ++ t.name ++ "'"
  path := some (columnPath t c)

/-- A classification declares a foreign key. -/
def foreignKeyTag (t : Table) (c : Column) : ValidationError where
  code := .foreignKeyTag
  message := "Column '" ++ t.name ++ "." ++ c.name ++
    "' declares a foreign key through its classification '" ++ c.classification ++ "'"
  path := some (columnPath t c)
  suggestion := some
    ("Draw an association between the two tables instead; " ++
      "associations are the only foreign-key source")

/-- Adds the findings on a column after the columns before it. A column without a name is not looked
at any further. -/
def addColumn (t : Table) (report : Report) (entry : List Column × Column) : Report :=
  let (before, c) := entry
  if c.isUnnamed then report.addWarning (emptyColumnName t)
  else
    let report := if c.name ∈ before.map Column.name then
      report.addWarning (duplicateColumnName t c) else report
    if c.hasForeignKeyTag then report.addError (foreignKeyTag t c) else report

/-- Adds the findings on the columns of a table. -/
def addColumns (report : Report) (t : Table) : Report :=
  (withPrevious [] t.columns).foldl (addColumn t) report

/-- The findings on the columns. -/
def columnsReport (s : Schema) : Report :=
  s.tables.foldl addColumns .empty

/-- An end of an association names a column that its table does not have. -/
def missingColumn (a : Association) (t : Table) (column : String) : ValidationWarning where
  code := .missingForeignKeyColumn
  message := "Association references column '" ++ column ++ "' which is not declared on '" ++
    t.name ++ "'"
  path := some ("associations." ++ a.id)

/-- The warning about one end of an association; there is none if its table is unknown. -/
def endWarning? (s : Schema) (a : Association) (table column : String) :
    Option ValidationWarning := do
  let t ← s.table? table
  if (t.column? column).isNone then some (missingColumn a t column) else none

/-- The findings on the associations. -/
def associationsReport (s : Schema) : Report :=
  .ofWarnings <| s.associations.flatMap fun a ↦
    (endWarning? s a a.referencingTable a.referencingColumn).toList ++
      (endWarning? s a a.referencedTable a.referencedColumn).toList

/-- An enumeration has no literals. -/
def emptyEnumeration (e : Enumeration) : ValidationWarning where
  code := .emptyEnumeration
  message := "Enumeration '" ++ e.name ++ "' has no literals"
  path := some ("enumerations." ++ e.name)

/-- An enumeration before this one has the same class name. -/
def duplicateEnumerationName (e : Enumeration) : ValidationWarning where
  code := .duplicateEnumerationName
  message := "Enumeration '" ++ e.name ++ "' shares its class name with another enumeration"
  path := some ("enumerations." ++ e.name)

/-- The warnings about an enumeration after the enumerations before it. -/
def enumerationWarnings (before : List Enumeration) (e : Enumeration) : List ValidationWarning :=
  (if e.literals = [] then [emptyEnumeration e] else []) ++
    if Naming.className e.name ∈ before.map fun f ↦ Naming.className f.name then
      [duplicateEnumerationName e] else []

/-- A default is none of the literals of the enumeration. -/
def unknownDefault (t : Table) (c : Column) (enumeration value : String) : ValidationWarning where
  code := .unknownEnumDefault
  message := "Default '" ++ value ++ "' of '" ++ t.name ++ "." ++ c.name ++
    "' is not a literal of '" ++ enumeration ++ "'"
  path := some (columnPath t c)

/-- The warning about the default of a column. -/
def defaultWarning? (s : Schema) (t : Table) (c : Column) : Option ValidationWarning :=
  match c.type, c.defaultValue with
  | .enumeration name, some (.literal value) => do
    let e ← s.enumeration? name
    if value ∈ e.literalNames then none else some (unknownDefault t c name value)
  | _, _ => none

/-- The findings on the enumerations and on the defaults of their columns. -/
def enumerationsReport (s : Schema) : Report :=
  .ofWarnings <|
    ((withPrevious [] s.enumerations).flatMap fun (before, e) ↦ enumerationWarnings before e) ++
      s.tables.flatMap fun t ↦ t.columns.filterMap (defaultWarning? s t)

/-- The findings of a rule. -/
def report (rule : Rule) (s : Schema) : Report :=
  match rule with
  | tables => tablesReport s
  | columns => columnsReport s
  | associations => associationsReport s
  | enumerations => enumerationsReport s

end Rule

/-- The findings of rules, one rule after the other. -/
def Schema.validateBy (rules : List Rule) (s : Schema) : Report :=
  rules.foldl (fun report rule ↦ report.merge (rule.report s)) .empty

/-- The findings of all rules. -/
def Schema.validate (s : Schema) : Report :=
  s.validateBy Rule.all

end DiagramMigrations
