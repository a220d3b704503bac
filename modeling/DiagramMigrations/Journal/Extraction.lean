import DiagramMigrations.Journal.Event
import DiagramMigrations.Json.Printer
import DiagramMigrations.Schema.Extraction

/-!
The events of reading a schema off a diagram: sizes and types that mean nothing, and associations
that connect no tables.
-/

set_option autoImplicit false
set_option relaxedAutoImplicit false

namespace DiagramMigrations.Journal

/-- The event of a size that is neither a pair nor a number. -/
def sizeEvent? (size : Option Size) : Option Event :=
  match size with
  | some (.raw text) =>
    if (Size.raw text).isUnsplit then some {
      level := .warn
      message := "multiplicity is not of the form 'a..b'; passing it through unsplit"
      fields := [("multiplicity", text)] }
    else none
  | _ => none

/-- The event of a declared type that means nothing. -/
def fallbackEvent (column : String) : Diagram.AttributeType → Event
  | .reference element => {
      level := .debug
      message := "type reference is not an enumeration; falling back to text"
      fields := [("column", column), ("reference", element)] }
  | .name type => {
      level := .debug
      message := "unrecognized column type; falling back to text"
      fields := [("column", column), ("type_name", type)] }
  | .other value => {
      level := .debug
      message := "unreadable column type; falling back to text"
      fields := [("column", column), ("declared", value.renderCompact)] }

/-- The events of an attribute. -/
def ofAttribute (enumerations : List Enumeration) (a : Diagram.Attribute) : List Event :=
  let size := a.multiplicity.bind Size.parse?
  (sizeEvent? size).toList ++
    match ColumnType.resolve? enumerations size a.declaredType with
    | some _ => []
    | none => [fallbackEvent a.name a.declaredType]

/-- The events of an association. -/
def ofAssociation (tables : List Table) (a : Diagram.Association) : List Event :=
  match Association.ofDiagram? tables a with
  | some _ => []
  | none => [{
      level := .debug
      message := "association does not connect two tables; skipped"
      fields := [("association", a.id)] }]

/-- The events of reading a schema. -/
def ofExtraction (d : Diagram) : List Event :=
  let s := Schema.ofDiagram d
  (d.tableClasses.flatMap fun c ↦ c.attributes.flatMap (ofAttribute s.enumerations)) ++
    d.tableAssociations.flatMap (ofAssociation s.tables) ++ [{
      level := .debug
      message := "schema extracted from diagram"
      fields := [
        ("tables", toString s.tables.length),
        ("enumerations", toString s.enumerations.length),
        ("associations", toString s.associations.length)] }]

end DiagramMigrations.Journal
