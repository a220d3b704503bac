import DiagramMigrations.Diagram.Basic
import DiagramMigrations.Json.Printer

/-!
Diagrams as JSON documents. Every field is written, also one that is absent or has its default.
-/

set_option autoImplicit false
set_option relaxedAutoImplicit false

namespace DiagramMigrations.Diagram

/-- An attribute type as JSON. -/
def AttributeType.toJson : AttributeType → Json
  | name text => .text text
  | reference element => .object [("$ref", .text element)]
  | other value => value

/-- A text that may be absent. -/
def optionalText : Option String → Json
  | some text => .text text
  | none => .null

/-- An attribute as JSON. -/
def Attribute.toJson (a : Attribute) : Json :=
  .object [
    ("name", .text a.name),
    ("type", a.declaredType.toJson),
    ("multiplicity", optionalText a.multiplicity),
    ("isId", .boolean a.isId),
    ("isUnique", .boolean a.isUnique),
    ("defaultValue", .text a.defaultValue),
    ("documentation", .text a.documentation),
    ("classification", .text a.classification)]

/-- An association end as JSON. -/
def End.toJson (e : End) : Json :=
  .object [("name", .text e.name), ("reference", .text e.reference)]

/-- An owned element as JSON. -/
def Owned.toJson : Owned → Json
  | association a =>
    .object [
      ("kind", .text "association"),
      ("id", .text a.id),
      ("end1", a.referencing.toJson),
      ("end2", a.referenced.toJson)]
  | other => .object [("kind", .text "other")]

/-- A literal as JSON. -/
def Literal.toJson (l : Literal) : Json :=
  .object [("name", .text l.name), ("documentation", .text l.documentation)]

/-- An element as JSON. -/
def Element.toJson : Element → Json
  | ofClass c =>
    .object [
      ("kind", .text "class"),
      ("id", .text c.id),
      ("name", .text c.name),
      ("classification", .text c.classification),
      ("attributes", .array (c.attributes.map Attribute.toJson)),
      ("ownedElements", .array (c.owned.map Owned.toJson))]
  | ofEnumeration e =>
    .object [
      ("kind", .text "enumeration"),
      ("id", .text e.id),
      ("name", .text e.name),
      ("literals", .array (e.literals.map Literal.toJson))]
  | other => .object [("kind", .text "other")]

/-- A diagram as JSON. -/
def toJson (d : Diagram) : Json :=
  .object [
    ("name", .text d.name),
    ("views", .array (d.elements.map fun e ↦ .object [("model", e.toJson)]))]

/-- The document of a diagram. -/
def render (d : Diagram) : String :=
  d.toJson.render

end DiagramMigrations.Diagram
