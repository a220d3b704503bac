import DiagramMigrations.Diagram.Element
import DiagramMigrations.Diagram.Printer
import DiagramMigrations.Proofs.Json.Value
import DiagramMigrations.Proofs.Lists

/-!
The attribute types of a diagram. A type that is written and read again is the same, unless it holds
a value that is the written form of a name or of a reference.
-/

set_option autoImplicit false
set_option relaxedAutoImplicit false

namespace DiagramMigrations.Diagram

/-! ### The types of a diagram -/

/-- The types of the attributes that an element has. -/
def Element.types : Element → List AttributeType
  | ofClass c => c.attributes.map Attribute.declaredType
  | ofEnumeration _ | other => []

/-- The types of all attributes on a diagram. -/
def types (d : Diagram) : List AttributeType :=
  d.elements.flatMap Element.types

/-- An attribute with its type replaced. -/
def Attribute.mapType (f : AttributeType → AttributeType) (a : Attribute) : Attribute :=
  { a with declaredType := f a.declaredType }

/-- A class with its attribute types replaced. -/
def Class.mapTypes (f : AttributeType → AttributeType) (c : Class) : Class :=
  { c with attributes := c.attributes.map (Attribute.mapType f) }

/-- An element with its attribute types replaced. -/
def Element.mapTypes (f : AttributeType → AttributeType) : Element → Element
  | ofClass c => ofClass (c.mapTypes f)
  | ofEnumeration e => ofEnumeration e
  | other => other

/-- A diagram with its attribute types replaced. -/
def mapTypes (f : AttributeType → AttributeType) (d : Diagram) : Diagram :=
  { d with elements := d.elements.map (Element.mapTypes f) }

variable {f : AttributeType → AttributeType}

theorem Attribute.mapType_eq_self_iff (a : Attribute) :
    a.mapType f = a ↔ f a.declaredType = a.declaredType :=
  ⟨congrArg Attribute.declaredType, fun h ↦ by rw [mapType, h]⟩

theorem Element.mapTypes_eq_self_iff {e : Element} :
    e.mapTypes f = e ↔ ∀ t ∈ e.types, f t = t := by
  cases e with
  | other | ofEnumeration => simp [mapTypes, types]
  | ofClass c =>
    rw [mapTypes, ofClass.injEq, Class.mapTypes, types, List.forall_mem_map]
    calc ({ c with attributes := c.attributes.map (Attribute.mapType f) } : Class) = c
      _ ↔ c.attributes.map (Attribute.mapType f) = c.attributes :=
        ⟨congrArg Class.attributes, fun h ↦ by rw [h]⟩
      _ ↔ ∀ a ∈ c.attributes, a.mapType f = a := map_eq_self_iff
      _ ↔ ∀ a ∈ c.attributes, f a.declaredType = a.declaredType :=
        forall₂_congr fun a _ ↦ a.mapType_eq_self_iff

theorem mapTypes_eq_self_iff {d : Diagram} : d.mapTypes f = d ↔ ∀ t ∈ d.types, f t = t := by
  calc ({ d with elements := d.elements.map (Element.mapTypes f) } : Diagram) = d
    _ ↔ d.elements.map (Element.mapTypes f) = d.elements :=
      ⟨congrArg Diagram.elements, fun h ↦ by rw [h]⟩
    _ ↔ ∀ e ∈ d.elements, e.mapTypes f = e := map_eq_self_iff
    _ ↔ ∀ e ∈ d.elements, ∀ t ∈ e.types, f t = t :=
      forall₂_congr fun e _ ↦ e.mapTypes_eq_self_iff
    _ ↔ ∀ t ∈ d.types, f t = t := List.forall_mem_flatMap.symm

/-! ### Types that are written and read -/

namespace AttributeType

/-- What a type is read as after it has been written. -/
def reread (t : AttributeType) : AttributeType :=
  readType t.toJson

/-- Whether a type holds a value that is also the written form of a name or of a reference. -/
def Ambiguous : AttributeType → Prop
  | other (.text _) => True
  | other (.object members) => ∃ element, ("$ref", .text element) ∈ members
  | _ => False

theorem referenceOf?_eq_some_iff {members : List (String × Json)}
    (hkeys : (members.map Prod.fst).Nodup) {element : String} :
    referenceOf? members = some element ↔ ("$ref", .text element) ∈ members := by
  constructor
  · intro h
    unfold referenceOf? at h
    split at h
    · rename_i key found hfilter
      obtain rfl : found = element := Option.some.inj h
      have hmem : (key, Json.text found) ∈ members.filter fun m ↦ m.1 = "$ref" := by
        rw [hfilter]
        exact List.mem_singleton_self _
      obtain ⟨hmem, hkey⟩ := List.mem_filter.mp hmem
      obtain rfl : key = "$ref" := of_decide_eq_true hkey
      exact hmem
    · cases h
  · intro h
    rw [referenceOf?, filter_key_eq Prod.fst hkeys h]

/-- A value is kept as it is, unless it is the written form of a name or of a reference. -/
theorem readType_eq_other_iff {v : Json} (h : v.Sorted) :
    readType v = other v ↔ ¬ (other v).Ambiguous := by
  cases v with
  | null | boolean | number => simp [readType, Json.canonical, Ambiguous]
  | text s => simp [readType, Ambiguous]
  | array items => simp [readType, Json.canonical_of_sorted h, Ambiguous]
  | object members =>
    have hkeys : (members.map Prod.fst).Nodup :=
      (Json.sorted_object.mp h).1.imp fun hlt ↦ ne_of_lt hlt
    simp only [readType, Ambiguous, ← referenceOf?_eq_some_iff hkeys]
    cases referenceOf? members with
    | none => simp [Json.canonical_of_sorted h]
    | some element => simp

/-- Exactly the ambiguous types are read as others than they were written. -/
theorem reread_eq_self_iff {t : AttributeType} (h : t.toJson.Sorted) :
    t.reread = t ↔ ¬ t.Ambiguous := by
  cases t with
  | name text => simp [reread, toJson, readType, Ambiguous]
  | reference element => simp [reread, toJson, readType, referenceOf?, Ambiguous]
  | other v => exact readType_eq_other_iff h

end AttributeType

end DiagramMigrations.Diagram
