import DiagramMigrations.Diagram.Basic
import DiagramMigrations.Diagram.Record

/-!
The elements of a document, read from JSON values.
-/

set_option autoImplicit false
set_option relaxedAutoImplicit false

namespace DiagramMigrations.Diagram

/-- The only text member with the key `$ref`. -/
def referenceOf? (members : List (String × Json)) : Option String :=
  match members.filter fun member ↦ member.1 = "$ref" with
  | [(_, .text element)] => some element
  | _ => none

/-- An attribute type: a text, an object with one text as its `$ref`, or any other value, which is
kept in canonical form. -/
def readType : Json → AttributeType
  | .text name => .name name
  | .object members =>
    match referenceOf? members with
    | some element => .reference element
    | none => .other (Json.object members).canonical
  | value => .other value.canonical

/-- The fields of an attribute that have been read. -/
structure AttributeDraft where
  name : Option String := none
  declaredType : Option AttributeType := none
  multiplicity : Option (Option String) := none
  isId : Option Bool := none
  isUnique : Option Bool := none
  defaultValue : Option String := none
  documentation : Option String := none
  classification : Option String := none

/-- Takes in a field of an attribute. -/
def AttributeDraft.take (d : AttributeDraft) (field : String) (value : Json) :
    Except Complaint AttributeDraft := do
  match field with
  | "name" => return { d with name := ← once field d.name (readText value) }
  | "type" => return { d with declaredType := ← once field d.declaredType (.ok (readType value)) }
  | "multiplicity" =>
    return { d with multiplicity := ← once field d.multiplicity (.ok (lenientText? value)) }
  | "isId" | "isID" => return { d with isId := ← once "isId" d.isId (readFlag value) }
  | "isUnique" => return { d with isUnique := ← once field d.isUnique (readFlag value) }
  | "defaultValue" =>
    return { d with defaultValue := ← once field d.defaultValue (.ok (lenientText value)) }
  | "documentation" =>
    return { d with documentation := ← once field d.documentation (.ok (lenientText value)) }
  | "classification" =>
    return { d with classification := ← once field d.classification (.ok (lenientText value)) }
  | _ => return d

/-- Attributes. -/
def Attribute.shape : Shape AttributeDraft Attribute where
  title := "struct AttributeElement"
  fields := ["name", "type", "multiplicity", "isId", "isUnique", "defaultValue", "documentation",
    "classification"]
  empty := {}
  take := AttributeDraft.take
  finish absent d := do
    return {
      name := ← required absent "name" d.name
      declaredType := d.declaredType.getD (.name "")
      multiplicity := d.multiplicity.getD none
      isId := d.isId.getD false
      isUnique := d.isUnique.getD false
      defaultValue := d.defaultValue.getD ""
      documentation := d.documentation.getD ""
      classification := d.classification.getD "" }

/-- The fields of an association end that have been read. -/
structure EndDraft where
  name : Option String := none
  reference : Option String := none

/-- Takes in a field of an association end. -/
def EndDraft.take (d : EndDraft) (field : String) (value : Json) : Except Complaint EndDraft := do
  match field with
  | "name" => return { d with name := ← once field d.name (.ok (lenientText value)) }
  | "reference" => return { d with reference := ← once field d.reference (readText value) }
  | _ => return d

/-- Association ends. -/
def End.shape : Shape EndDraft End where
  title := "struct AssociationEnd"
  fields := ["name", "reference"]
  empty := {}
  take := EndDraft.take
  finish absent d := do
    return { name := d.name.getD "", reference := ← required absent "reference" d.reference }

/-- The fields of an association that have been read. -/
structure AssociationDraft where
  id : Option String := none
  referencing : Option End := none
  referenced : Option End := none

/-- Takes in a field of an association. -/
def AssociationDraft.take (d : AssociationDraft) (field : String) (value : Json) :
    Except Complaint AssociationDraft := do
  match field with
  | "id" => return { d with id := ← once field d.id (readText value) }
  | "end1" => return { d with referencing := ← once field d.referencing (End.shape.read value) }
  | "end2" => return { d with referenced := ← once field d.referenced (End.shape.read value) }
  | _ => return d

/-- Associations. -/
def Association.shape : Shape AssociationDraft Association where
  title := "struct AssociationElement"
  fields := ["id", "end1", "end2"]
  empty := {}
  take := AssociationDraft.take
  finish absent d := do
    return {
      id := d.id.getD ""
      referencing := ← required absent "end1" d.referencing
      referenced := ← required absent "end2" d.referenced }

/-- The tag of an element: a word, or the position of a word in the list of kinds. -/
inductive Tag
  | word (text : String)
  | position (index : Nat)
  deriving DecidableEq, Repr

/-- Reads a tag. -/
def readTag : Json → Except Complaint Tag
  | .text word => .ok (.word word)
  | .number (.integer (.ofNat index)) => .ok (.position index)
  | value => .error (.refuse value "variant identifier")

/-- Separates the tag of an object from its other members. -/
def takeTag (state : Option Tag × List (String × Json)) (member : String × Json) :
    Except Complaint (Option Tag × List (String × Json)) := do
  if member.1 = "kind" then
    return (← once "kind" state.1 (readTag member.2), state.2)
  else
    return (state.1, state.2 ++ [member])

/-- The tag of a value and what is left of the value without it. -/
def splitTag (title : String) : Json → Except Complaint (Tag × Json)
  | .object members => do
    let (tag, rest) ← members.foldlM takeTag (none, [])
    return (← required .missingField "kind" tag, .object rest)
  | .array [] => .error (.missingField "kind")
  | .array (tag :: rest) => do return (← readTag tag, .array rest)
  | value => .error (.refuse value title)

/-- An element of a kind that is not read: any object, or an array of its tag alone. -/
def readIgnored : Json → Except Complaint Unit
  | .array [] | .object _ => .ok ()
  | .array items => .error (.wrongLength items.length (countElements 0 ++ " in sequence"))
  | _ => .ok ()

/-- An element that a class owns. -/
def readOwned (value : Json) : Except Complaint Owned := do
  let (tag, body) ← splitTag "internally tagged enum OwnedElement" value
  if tag = .word "association" ∨ tag = .position 0 then
    return .association (← Association.shape.read body)
  else
    readIgnored body
    return .other

/-- The fields of a class that have been read. -/
structure ClassDraft where
  id : Option String := none
  name : Option String := none
  classification : Option String := none
  attributes : Option (List Attribute) := none
  owned : Option (List Owned) := none

/-- Takes in a field of a class. -/
def ClassDraft.take (d : ClassDraft) (field : String) (value : Json) :
    Except Complaint ClassDraft := do
  match field with
  | "id" => return { d with id := ← once field d.id (readText value) }
  | "name" => return { d with name := ← once field d.name (readText value) }
  | "classification" =>
    return { d with classification := ← once field d.classification (.ok (lenientText value)) }
  | "attributes" =>
    return { d with attributes := ← once field d.attributes (readList Attribute.shape.read value) }
  | "ownedElements" => return { d with owned := ← once field d.owned (readList readOwned value) }
  | _ => return d

/-- Classes. -/
def Class.shape : Shape ClassDraft Class where
  title := "struct ClassElement"
  fields := ["id", "name", "classification", "attributes", "ownedElements"]
  empty := {}
  take := ClassDraft.take
  finish absent d := do
    return {
      id := ← required absent "id" d.id
      name := ← required absent "name" d.name
      classification := d.classification.getD ""
      attributes := d.attributes.getD []
      owned := d.owned.getD [] }

/-- The fields of a literal that have been read. -/
structure LiteralDraft where
  name : Option String := none
  documentation : Option String := none

/-- Takes in a field of a literal. -/
def LiteralDraft.take (d : LiteralDraft) (field : String) (value : Json) :
    Except Complaint LiteralDraft := do
  match field with
  | "name" => return { d with name := ← once field d.name (readText value) }
  | "documentation" =>
    return { d with documentation := ← once field d.documentation (.ok (lenientText value)) }
  | _ => return d

/-- Literals. -/
def Literal.shape : Shape LiteralDraft Literal where
  title := "struct LiteralElement"
  fields := ["name", "documentation"]
  empty := {}
  take := LiteralDraft.take
  finish absent d := do
    return { name := ← required absent "name" d.name, documentation := d.documentation.getD "" }

/-- The fields of an enumeration that have been read. -/
structure EnumerationDraft where
  id : Option String := none
  name : Option String := none
  literals : Option (List Literal) := none

/-- Takes in a field of an enumeration. -/
def EnumerationDraft.take (d : EnumerationDraft) (field : String) (value : Json) :
    Except Complaint EnumerationDraft := do
  match field with
  | "id" => return { d with id := ← once field d.id (readText value) }
  | "name" => return { d with name := ← once field d.name (readText value) }
  | "literals" =>
    return { d with literals := ← once field d.literals (readList Literal.shape.read value) }
  | _ => return d

/-- Enumerations. -/
def Enumeration.shape : Shape EnumerationDraft Enumeration where
  title := "struct EnumerationElement"
  fields := ["id", "name", "literals"]
  empty := {}
  take := EnumerationDraft.take
  finish absent d := do
    return {
      id := ← required absent "id" d.id
      name := ← required absent "name" d.name
      literals := d.literals.getD [] }

/-- An element of a view, by its kind. -/
def readElement (kind : String) (body : Json) : Except Complaint Element := do
  match kind with
  | "class" => return .ofClass (← Class.shape.read body)
  | "enumeration" => return .ofEnumeration (← Enumeration.shape.read body)
  | _ =>
    readIgnored body
    return .other

end DiagramMigrations.Diagram
