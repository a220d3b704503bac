import DiagramMigrations.Diagram.Basic
import DiagramMigrations.Naming
import DiagramMigrations.Schema.Basic

/-!
The schema of a diagram. Classes that are classified as tables become tables, each class and each
enumeration is read once however many views show it, and an association counts when it connects two
tables. A type that names nothing becomes text.
-/

set_option autoImplicit false
set_option relaxedAutoImplicit false

namespace DiagramMigrations

/-- The elements whose key no earlier element has. -/
def firstsBy {α : Type} (key : α → String) (xs : List α) : List α :=
  xs.foldl (fun kept x ↦ if key x ∈ kept.map key then kept else kept ++ [x]) []

/-- A text without the white space around it, unless nothing is left. -/
def nonBlank? (text : String) : Option String :=
  let text := Text.trimmed text
  if text = "" then none else some text

/-- An enumeration of a schema, from one of a diagram. -/
def Enumeration.ofDiagram (e : Diagram.Enumeration) : Enumeration where
  id := e.id
  name := e.name
  literals := e.literals.map fun l ↦ ⟨l.name, nonBlank? l.documentation⟩

namespace ColumnType

/-- What a declared type comes to, given the enumerations of the schema: a reference finds an
enumeration by its id, a name finds a kind or else an enumeration by its name. -/
def resolve? (enumerations : List Enumeration) (size : Option Size) :
    Diagram.AttributeType → Option ColumnType
  | .reference element =>
    (enumerations.find? fun e ↦ e.id = element).map fun e ↦ enumeration e.name
  | .name type =>
    match ColumnKind.parse? type with
    | some kind => some (primitive kind size)
    | none =>
      (enumerations.find? fun e ↦ e.name = Text.trimmed type).map fun e ↦ enumeration e.name
  | .other _ => none

/-- The type of an attribute. -/
def ofAttribute (enumerations : List Enumeration) (a : Diagram.Attribute) : ColumnType :=
  (resolve? enumerations (a.multiplicity.bind Size.parse?) a.declaredType).getD text

end ColumnType

/-- A column, from an attribute. -/
def Column.ofAttribute (enumerations : List Enumeration) (a : Diagram.Attribute) : Column where
  name := a.name
  type := ColumnType.ofAttribute enumerations a
  isPrimaryKey := a.isId
  isUnique := a.isUnique
  defaultValue := Default.parse? a.defaultValue
  documentation := nonBlank? a.documentation
  classification := Text.trimmed a.classification

/-- A table, from a class. -/
def Table.ofClass (enumerations : List Enumeration) (c : Diagram.Class) : Table where
  id := c.id
  name := c.name
  columns := c.attributes.map (Column.ofAttribute enumerations)

/-- An association between two of the tables. A referencing column without a name is named for the
referenced table, a referenced one is `id`. -/
def Association.ofDiagram? (tables : List Table) (a : Diagram.Association) :
    Option Association := do
  let _ ← tables.find? fun t ↦ t.id = a.referencing.reference
  let referenced ← tables.find? fun t ↦ t.id = a.referenced.reference
  return {
    id := a.id
    referencingTable := a.referencing.reference
    referencingColumn :=
      (nonBlank? a.referencing.name).getD (Naming.foreignKeyColumn referenced.name)
    referencedTable := a.referenced.reference
    referencedColumn := (nonBlank? a.referenced.name).getD "id" }

namespace Diagram

/-- The association that an owned element is. -/
def Owned.association? : Owned → Option Association
  | association a => some a
  | other => none

/-- The classes that become tables, each once. -/
def tableClasses (d : Diagram) : List Class :=
  firstsBy Class.id (d.classes.filter Class.isTable)

/-- The enumerations, each once. -/
def enumerationsOnce (d : Diagram) : List Enumeration :=
  firstsBy Enumeration.id d.enumerations

/-- The associations that the tables own, in reading order. Of those with an id each is read once,
of those without one every one. -/
def tableAssociations (d : Diagram) : List Association :=
  (d.tableClasses.flatMap fun c ↦ c.owned.filterMap Owned.association?).foldl
    (fun kept a ↦ if a.id ≠ "" ∧ a.id ∈ kept.map Association.id then kept else kept ++ [a]) []

end Diagram

/-- The schema of a diagram. -/
def Schema.ofDiagram (d : Diagram) : Schema :=
  let enumerations := d.enumerationsOnce.map Enumeration.ofDiagram
  let tables := d.tableClasses.map (Table.ofClass enumerations)
  { name := d.name
    tables
    enumerations
    associations := d.tableAssociations.filterMap (Association.ofDiagram? tables) }

end DiagramMigrations
