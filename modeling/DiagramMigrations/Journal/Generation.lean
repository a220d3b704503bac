import DiagramMigrations.Journal.Event
import DiagramMigrations.Project.Generation

/-!
The events of generating a project: rules, the order of the tables, columns and files. They end
where the generation fails.
-/

set_option autoImplicit false
set_option relaxedAutoImplicit false

namespace DiagramMigrations.Journal

/-- The event of a rule. -/
def ofRule (s : Schema) (rule : Rule) : Event where
  level := .trace
  message := "validation rule finished"
  fields :=
    let report := rule.report s
    [("rule", rule.name), ("errors", toString report.errors.length),
      ("warnings", toString report.warnings.length)]

/-- The event of an order of creation. -/
def ofOrder (order : List Nat) : Event where
  level := .trace
  message := "dependency order computed"
  fields := [("order", "[" ++ ", ".intercalate (order.map toString) ++ "]")]

/-- The event of a column, if it has a definition. -/
def ofColumn? (keyCount : Nat) (c : Column) : Option Event :=
  (Migration.ColumnDefinition.ofColumn? keyCount c).map fun definition ↦ {
    level := .trace
    message := "column translated"
    fields := [("column", c.name), ("statement", definition.text)] }

/-- The events of a migration. -/
def ofTable (c : Context) (t : Table) (position : Nat) : List Event :=
  t.columns.filterMap (ofColumn? t.primaryKey.length) ++ [{
    level := .debug
    message := "migration generated"
    fields := [("table", t.name), ("file", c.migrationFile position t.name)] }]

/-- The event of an enumeration class. -/
def ofEnumeration (e : Enumeration) : Event where
  level := .debug
  message := "enum class generated"
  fields := [("enumeration", e.name), ("class", Naming.className e.name)]

/-- The events of the files of a context. -/
def ofContext (c : Context) : List Event :=
  (c.tables.zipIdx.flatMap fun (t, position) ↦ ofTable c t position) ++
    if c.hasEnumClasses then c.enumerations.map ofEnumeration else []

/-- The events of a project that is complete. -/
def ofProject (p : Project) : List Event :=
  p.warnings.map (fun warning ↦ { level := .warn, message := warning }) ++ [{
    level := .info
    message := "code generation complete"
    fields := [
      ("files", toString p.files.length),
      ("warnings", toString p.warnings.length),
      ("diagram", p.name)] }]

/-- The events of building the project of a schema that has been judged. -/
def ofBuilding (settings : Settings) (now : Timestamp) (s : Schema) : List Event :=
  match dependencyOrder s.tables s.associations, Context.ofSchema settings now s with
  | .ok order, .ok c =>
    ofOrder order :: ofContext c ++ ofProject (c.project s.validate.warnings)
  | _, _ => []

/-- The events of generating the project of a schema. -/
def ofGeneration (settings : Settings) (now : Timestamp) (s : Schema) : List Event :=
  match settings.check with
  | .error _ => []
  | .ok () =>
    Rule.all.map (ofRule s) ++
      match s.validate.result with
      | .error _ => []
      | .ok () => ofBuilding settings now s

end DiagramMigrations.Journal
