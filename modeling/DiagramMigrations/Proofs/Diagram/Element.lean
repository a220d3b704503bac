import DiagramMigrations.Proofs.Diagram.Types
import DiagramMigrations.Proofs.Except
import DiagramMigrations.Proofs.Json.Number

/-!
Elements that are written and read again. Every record is read from its own object as it was, but
for the types of attributes, which are read each on its own.
-/

set_option autoImplicit false
set_option relaxedAutoImplicit false

namespace DiagramMigrations.Diagram

theorem readList_map {α β : Type} {read : Json → Except Complaint β} {write : α → Json}
    {f : α → β} {xs : List α} (h : ∀ x ∈ xs, read (write x) = .ok (f x)) :
    readList read (.array (xs.map write)) = .ok (xs.map f) :=
  mapM_map_eq_ok h

theorem Attribute.read_toJson (a : Attribute) :
    Attribute.shape.read a.toJson = .ok (a.mapType AttributeType.reread) := by
  obtain ⟨name, declaredType, multiplicity, isId, isUnique, defaultValue, documentation,
    classification⟩ := a
  cases multiplicity <;> rfl

theorem Literal.read_toJson (l : Literal) : Literal.shape.read l.toJson = .ok l := rfl

theorem Owned.read_toJson (o : Owned) : readOwned o.toJson = .ok o := by
  cases o <;> rfl

/-! ### Elements of a view -/

namespace Element

/-- The kind that an element is written with. -/
def kind : Element → String
  | ofClass _ => "class"
  | ofEnumeration _ => "enumeration"
  | other => "other"

/-- The members that an element is written with besides its kind. -/
def fields : Element → List (String × Json)
  | ofClass c => [
      ("id", .text c.id),
      ("name", .text c.name),
      ("classification", .text c.classification),
      ("attributes", .array (c.attributes.map Attribute.toJson)),
      ("ownedElements", .array (c.owned.map Owned.toJson))]
  | ofEnumeration e => [
      ("id", .text e.id),
      ("name", .text e.name),
      ("literals", .array (e.literals.map Literal.toJson))]
  | other => []

theorem toJson_eq (e : Element) : e.toJson = .object (("kind", .text e.kind) :: e.fields) := by
  cases e <;> rfl

theorem read_fields (e : Element) :
    readElement e.kind (.object e.fields) = .ok (e.mapTypes AttributeType.reread) := by
  cases e with
  | other => rfl
  | ofClass c =>
    have hattributes := readList_map fun a (_ : a ∈ c.attributes) ↦ a.read_toJson
    have howned := readList_map (f := id) fun o (_ : o ∈ c.owned) ↦ o.read_toJson
    rw [List.map_id] at howned
    simp only [readElement, kind, fields, Class.shape, Shape.read, List.foldlM, ClassDraft.take,
      once, readText, hattributes, howned, Except.map]
    rfl
  | ofEnumeration e =>
    have hliterals := readList_map (f := id) fun l (_ : l ∈ e.literals) ↦ l.read_toJson
    rw [List.map_id] at hliterals
    simp only [readElement, kind, fields, Enumeration.shape, Shape.read, List.foldlM,
      EnumerationDraft.take, once, readText, hliterals, Except.map]
    rfl

end Element

/-! ### Numbers of a document -/

theorem Attribute.hasWords_toJson {a : Attribute} (h : a.declaredType.toJson.HasWords) :
    a.toJson.HasWords := by
  have hmultiplicity : (optionalText a.multiplicity).HasWords := by
    cases a.multiplicity <;> simp [optionalText]
  simp [Attribute.toJson, Json.hasWords_object, h, hmultiplicity]

theorem Owned.hasWords_toJson (o : Owned) : o.toJson.HasWords := by
  cases o <;> simp [Owned.toJson, End.toJson, Json.hasWords_object]

theorem Literal.hasWords_toJson (l : Literal) : l.toJson.HasWords := by
  simp [Literal.toJson, Json.hasWords_object]

/-- The only numbers of an element stand in its types. -/
theorem Element.hasWords_toJson {e : Element} (h : ∀ t ∈ e.types, t.toJson.HasWords) :
    e.toJson.HasWords := by
  cases e with
  | other => simp [Element.toJson, Json.hasWords_object]
  | ofEnumeration e =>
    simp [Element.toJson, Json.hasWords_object, Json.hasWords_array, Literal.hasWords_toJson]
  | ofClass c =>
    rw [Element.types, List.forall_mem_map] at h
    have hattributes : ∀ a ∈ c.attributes, a.toJson.HasWords :=
      fun a ha ↦ Attribute.hasWords_toJson (h a ha)
    simpa [Element.toJson, Json.hasWords_object, Json.hasWords_array, Owned.hasWords_toJson]
      using hattributes

/-- The only numbers of a document stand in the types of its diagram. -/
theorem hasWords_toJson {d : Diagram} (h : ∀ t ∈ d.types, t.toJson.HasWords) :
    d.toJson.HasWords := by
  rw [types, List.forall_mem_flatMap] at h
  have helements : ∀ e ∈ d.elements, e.toJson.HasWords :=
    fun e he ↦ Element.hasWords_toJson (h e he)
  simpa [toJson, Json.hasWords_object, Json.hasWords_array] using helements

end DiagramMigrations.Diagram
