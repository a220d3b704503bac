import DiagramMigrations.Proofs.Diagram.Models
import DiagramMigrations.Proofs.Json.Places

/-!
Values of fields. Where another value is put in the place of a field, a record is read with that
field set and all others as before, if the field can be read from the new value. For a field that is
read from whatever value there is, this holds of any.
-/

set_option autoImplicit false
set_option relaxedAutoImplicit false

namespace DiagramMigrations.Diagram

open Json (Puts)

/-! ### Places in a record -/

/-- Places at some positions, by what may stand there. -/
abbrev Places (β : Type) :=
  β → List Nat → Prop

/-- The place of a value itself. -/
def here {β : Type} : Places β :=
  fun _ path ↦ path = []

/-- Places in the value of the member with a key. -/
def inMember {β κ : Type} (members? : β → Option (List (κ × β))) (key : κ) (inside : Places β) :
    Places β :=
  fun v path ↦ ∃ ms n rest u, members? v = some ms ∧ path = n :: rest ∧ ms[n]? = some (key, u) ∧
    inside u rest

/-- Places in the element of an array at a position. -/
def inItem (n : Nat) (inside : Places Json) : Places Json :=
  fun v path ↦ ∃ items rest u, v = .array items ∧ path = n :: rest ∧ items[n]? = some u ∧
    inside u rest

/-- Places in a tagged record of some kind. -/
def inKind (kind : Tag → Prop) (inside : Places Json) : Places Json :=
  fun v path ↦ (∃ tag body, splitTag "" v = .ok (tag, body) ∧ kind tag) ∧ inside v path

/-- Whether to put a value in some places changes what is read by a function. -/
def Sets {ε α : Type} (w : Json) (read : Json → Except ε α) (places : Places Json) (f : α → α) :
    Prop :=
  ∀ path v v' x, places v path → Puts w path v v' → read v = .ok x → read v' = .ok (f x)

section Places

variable {w v v' : Json} {path : List Nat} {α : Type}

/-- A field that is read from whatever value there is. -/
theorem sets_here {ε : Type} (f : Json → α) :
    Sets (ε := ε) w (fun v ↦ .ok (f v)) here fun _ ↦ f w := by
  rintro path v v' x rfl hputs -
  cases hputs with
  | here => rfl

theorem modify_append_cons (before behind : List α) (x : α) (f : α → α) :
    (before ++ x :: behind).modify before.length f = before ++ f x :: behind := by
  induction before with
  | nil => rfl
  | cons y before ih =>
    rw [List.cons_append, List.length_cons, List.modify_succ_cons, ih, List.cons_append]

/-- A value in an element of a list. -/
theorem Sets.item {read : Json → Except Complaint α} {places : Places Json} {f : α → α}
    (h : Sets w read places f) (n : Nat) :
    Sets w (readList read) (inItem n places) fun xs ↦ xs.modify n f := by
  rintro path v v' xs ⟨items, rest, u, rfl, rfl, hu, hplace⟩ hputs hread
  cases hputs with
  | @item _ front behind a b hputs =>
    obtain rfl : a = u := by simpa using hu
    obtain ⟨before, x, after, hbefore, hx, hafter, rfl⟩ := mapM_append_cons_eq_ok.mp hread
    have hmodify : (before ++ x :: after).modify front.length f = before ++ f x :: after := by
      rw [← length_of_mapM hbefore, modify_append_cons]
    exact mapM_append_cons_eq_ok.mpr
      ⟨before, f x, after, hbefore, h _ _ _ _ hplace hputs hx, hafter, hmodify⟩

/-- What is put into a member of a record leaves its other members as they are. -/
theorem exists_members_of_puts {names : List String} {ms : List (String × Json)} {n : Nat}
    {key : String} {u : Json} (hms : membersAs names v = some ms) (hu : ms[n]? = some (key, u))
    (hputs : Puts w (n :: path) v v') :
    ∃ front others u', ms = front ++ (key, u) :: others ∧
      membersAs names v' = some (front ++ (key, u') :: others) ∧ Puts w path u u' := by
  cases hputs with
  | @member _ front rest name a b hputs =>
    obtain rfl := Option.some.inj hms
    obtain ⟨rfl, rfl⟩ : name = key ∧ a = u := by simpa using hu
    exact ⟨front, rest, b, rfl, rfl, hputs⟩
  | @item _ front rest a b hputs =>
    rw [membersAs] at hms
    split_ifs at hms with hlength
    obtain rfl := Option.some.inj hms
    obtain ⟨name, pairs, others, -, hpairs, hzip⟩ := zip_append_cons hlength
    rw [hzip, ← hpairs] at hu
    obtain ⟨rfl, rfl⟩ : name = key ∧ a = u := by simpa using hu
    have hlength' : (front ++ b :: rest).length ≤ names.length := by
      rwa [List.length_append, List.length_cons] at hlength ⊢
    refine ⟨pairs, others, b, hzip a, ?_, hputs⟩
    rw [← hzip b]
    exact if_pos hlength'

end Places

/-! ### Fields of a record -/

section Fields

variable {Draft Result : Type} {s : Shape Draft Result}
  {slots : List (Slot Draft String Json Complaint)} {Same : Result → Result → Prop}
  {slot : Slot Draft String Json Complaint} {key : String} {g : slot.Value → slot.Value}
  {f : Result → Result} {w : Json} {places : Places Json}

/-- Whether a function of a record changes one field of it, the one that a key is for. -/
structure Shape.Changes (s : Shape Draft Result) (slots : List (Slot Draft String Json Complaint))
    (slot : Slot Draft String Json Complaint) (key : String) (g : slot.Value → slot.Value)
    (f : Result → Result) : Prop where
  mem : slot ∈ slots
  takes : slot.takes key = true
  only : ∀ other ∈ slots, other.takes key = true → other = slot
  finish : ∀ {absent d d' r x}, s.finish absent d = .ok r → slot.get d = some x →
    slot.get d' = some (g x) →
    (∀ other ∈ slots, other.takes key = false → other.get d' = other.get d) →
    s.finish absent d' = .ok (f r)

/-- A value in a field of a record. -/
theorem Shape.Changes.sets (slot : Slot Draft String Json Complaint)
    {g : slot.Value → slot.Value} (h : s.Changes slots slot key g f) (laws : s.Laws slots Same)
    (hfield : Sets w slot.read places g) :
    Sets w s.read (inMember (membersAs s.fields) key places) f := by
  rintro path v v' r ⟨ms, n, rest, u, hms, rfl, hu, hplace⟩ hputs hread
  obtain ⟨front, others, u', rfl, hns, hinside⟩ := exists_members_of_puts hms hu hputs
  obtain ⟨d, hd, hr⟩ := laws.exists_draft hread hms
  obtain ⟨⟨x, hx, hget⟩, hchange⟩ := (hd slot h.mem).change (w := u') h.takes
  have hnew := hchange _ (hfield _ _ _ _ hplace hinside hx)
  have hothers : ∀ other ∈ slots, other.takes key = false →
      other.Holds (front ++ (key, u') :: others) (other.get d) :=
    fun other hother hkey ↦ (hd other hother).change_of_not hkey
  obtain ⟨d', hd', hr'⟩ := laws.exists_read hns fun other hother ↦ by
    by_cases hkey : other.takes key = true
    · obtain rfl := h.only other hother hkey
      exact ⟨_, hnew⟩
    · exact ⟨_, hothers other hother (by simpa using hkey)⟩
  exact hr' .missingField _ (h.finish (hr .missingField) hget ((hd' slot h.mem).unique hnew)
    fun other hother hkey ↦ (hd' other hother).unique (hothers other hother hkey))

/-- A field of a record is one of the record behind a tag. -/
theorem Shape.Changes.tagged (h : s.Changes slots slot key g f) (hkey : key ≠ "kind") :
    s.tagged.Changes (taggedSlots slots) slot.behind key g fun x ↦ (x.1, f x.2) where
  mem := List.mem_cons_of_mem _ (List.mem_map_of_mem h.mem)
  takes := h.takes
  only other hother htakes := by
    rcases List.mem_cons.mp hother with rfl | hother
    · exact absurd (by simpa [fieldSlot] using htakes) hkey
    · obtain ⟨inner, hinner, rfl⟩ := List.mem_map.mp hother
      rw [h.only inner hinner htakes]
  finish := by
    rintro absent d d' ⟨tag, r⟩ x hr hx hgx hothers
    obtain ⟨htag, hr⟩ := finish_tagged_eq_ok.mp hr
    have hkind : d'.1 = d.1 := hothers _ List.mem_cons_self (by simpa [fieldSlot] using hkey)
    refine finish_tagged_eq_ok.mpr ⟨hkind.trans htag, h.finish hr hx hgx fun other hother ↦ ?_⟩
    exact hothers other.behind (List.mem_cons_of_mem _ (List.mem_map_of_mem hother))

/-- A value in a field of a record behind a tag. -/
theorem Shape.Changes.sets_tagged (slot : Slot Draft String Json Complaint)
    {g : slot.Value → slot.Value} (h : s.Changes slots slot key g f) (laws : s.Laws slots Same)
    (hkind : ∀ slot ∈ slots, slot.takes "kind" = false) (hfield : Sets w slot.read places g) :
    Sets w s.tagged.read (inMember (membersAs s.tagged.fields) key places)
      fun x ↦ (x.1, f x.2) := by
  have hkey : key ≠ "kind" := by
    rintro rfl
    exact absurd (hkind slot h.mem) (by simp [h.takes])
  exact (h.tagged hkey).sets slot.behind (laws.tagged hkind) hfield

end Fields

/-! ### The fields that are read from any value -/

/-- The fields of an attribute that are read from any value. -/
inductive AttributeField
  | type
  | multiplicity
  | defaultValue
  | documentation
  | classification
  deriving DecidableEq, Repr

/-- The key of the field. -/
def AttributeField.key : AttributeField → String
  | type => "type"
  | multiplicity => "multiplicity"
  | defaultValue => "defaultValue"
  | documentation => "documentation"
  | classification => "classification"

/-- An attribute with a field set to what is read from a value. -/
def Attribute.set (field : AttributeField) (w : Json) (a : Attribute) : Attribute :=
  match field with
  | .type => { a with declaredType := readType w }
  | .multiplicity => { a with multiplicity := lenientText? w }
  | .defaultValue => { a with defaultValue := lenientText w }
  | .documentation => { a with documentation := lenientText w }
  | .classification => { a with classification := lenientText w }

/-- A field of an attribute that is read from any value. -/
theorem Attribute.sets_field (field : AttributeField) (w : Json) :
    Sets w shape.read (inMember (membersAs shape.fields) field.key here) (set field w) := by
  cases field
  case' type =>
    refine Shape.Changes.sets (fieldSlot ["type"] (fun v ↦ .ok (readType v))
      AttributeDraft.declaredType) ?_ laws (sets_here readType)
  case' multiplicity =>
    refine Shape.Changes.sets (fieldSlot ["multiplicity"] (fun v ↦ .ok (lenientText? v))
      AttributeDraft.multiplicity) ?_ laws (sets_here lenientText?)
  case' defaultValue =>
    refine Shape.Changes.sets (fieldSlot ["defaultValue"] (fun v ↦ .ok (lenientText v))
      AttributeDraft.defaultValue) ?_ laws (sets_here lenientText)
  case' documentation =>
    refine Shape.Changes.sets (fieldSlot ["documentation"] (fun v ↦ .ok (lenientText v))
      AttributeDraft.documentation) ?_ laws (sets_here lenientText)
  case' classification =>
    refine Shape.Changes.sets (fieldSlot ["classification"] (fun v ↦ .ok (lenientText v))
      AttributeDraft.classification) ?_ laws (sets_here lenientText)
  all_goals
    refine ⟨by simp [AttributeDraft.slots], by simp [fieldSlot, AttributeField.key],
      by simp [AttributeDraft.slots, fieldSlot, AttributeField.key], ?_⟩
    intro absent d d' a x ha _ hx hothers
    rw [finish_eq_ok] at ha ⊢
    simp_all [AttributeDraft.slots, fieldSlot, AttributeField.key, set]

/-- An end with its name set to what is read from a value. -/
def End.setName (w : Json) (e : End) : End :=
  { e with name := lenientText w }

theorem End.sets_name (w : Json) :
    Sets w shape.read (inMember (membersAs shape.fields) "name" here) (setName w) := by
  refine Shape.Changes.sets (fieldSlot ["name"] (fun v ↦ .ok (lenientText v)) EndDraft.name) ?_
    laws (sets_here lenientText)
  refine ⟨by simp [EndDraft.slots], by simp [fieldSlot], by simp [EndDraft.slots, fieldSlot], ?_⟩
  intro absent d d' e x he _ hx hothers
  rw [finish_eq_ok] at he ⊢
  simp_all [EndDraft.slots, fieldSlot, setName]

/-- A literal with its documentation set to what is read from a value. -/
def Literal.setDocumentation (w : Json) (l : Literal) : Literal :=
  { l with documentation := lenientText w }

theorem Literal.sets_documentation (w : Json) :
    Sets w shape.read (inMember (membersAs shape.fields) "documentation" here)
      (setDocumentation w) := by
  refine Shape.Changes.sets (fieldSlot ["documentation"] (fun v ↦ .ok (lenientText v))
    LiteralDraft.documentation) ?_ laws (sets_here lenientText)
  refine ⟨by simp [LiteralDraft.slots], by simp [fieldSlot],
    by simp [LiteralDraft.slots, fieldSlot], ?_⟩
  intro absent d d' l x hl _ hx hothers
  rw [finish_eq_ok] at hl ⊢
  simp_all [LiteralDraft.slots, fieldSlot, setDocumentation]

/-- The ends of an association. -/
inductive Side
  | referencing
  | referenced
  deriving DecidableEq, Repr

/-- The key of the end. -/
def Side.key : Side → String
  | referencing => "end1"
  | referenced => "end2"

/-- An association with one end changed. -/
def Association.modifyEnd (side : Side) (f : End → End) (a : Association) : Association :=
  match side with
  | .referencing => { a with referencing := f a.referencing }
  | .referenced => { a with referenced := f a.referenced }

theorem Association.sets_end (side : Side) {w : Json} {places : Places Json} {f : End → End}
    (h : Sets w End.shape.read places f) :
    Sets w shape.tagged.read (inMember (membersAs shape.tagged.fields) side.key places)
      fun x ↦ (x.1, modifyEnd side f x.2) := by
  cases side
  case' referencing =>
    refine Shape.Changes.sets_tagged (fieldSlot ["end1"] End.shape.read
      AssociationDraft.referencing) ?_ laws (by simp [AssociationDraft.slots, fieldSlot]) h
  case' referenced =>
    refine Shape.Changes.sets_tagged (fieldSlot ["end2"] End.shape.read
      AssociationDraft.referenced) ?_ laws (by simp [AssociationDraft.slots, fieldSlot]) h
  all_goals
    refine ⟨by simp [AssociationDraft.slots], by simp [fieldSlot, Side.key],
      by simp [AssociationDraft.slots, fieldSlot, Side.key], ?_⟩
    intro absent d d' a (x : End) ha hx hfx hothers
    rw [finish_eq_ok] at ha ⊢
    simp_all [AssociationDraft.slots, fieldSlot, Side.key, modifyEnd]

/-- A class with its classification set to what is read from a value. -/
def Class.setClassification (w : Json) (c : Class) : Class :=
  { c with classification := lenientText w }

/-- A class with its attributes changed. -/
def Class.modifyAttributes (f : List Attribute → List Attribute) (c : Class) : Class :=
  { c with attributes := f c.attributes }

/-- A class with what it owns changed. -/
def Class.modifyOwned (f : List Owned → List Owned) (c : Class) : Class :=
  { c with owned := f c.owned }

theorem ClassDraft.takes_kind {α : Type} {f : List Owned → α} :
    ∀ slot ∈ ClassDraft.slots f, slot.takes "kind" = false := by
  simp [ClassDraft.slots, fieldSlot]

theorem Class.sets_classification (w : Json) :
    Sets w shape.tagged.read (inMember (membersAs shape.tagged.fields) "classification" here)
      fun x ↦ (x.1, setClassification w x.2) := by
  refine Shape.Changes.sets_tagged (fieldSlot ["classification"] (fun v ↦ .ok (lenientText v))
    ClassDraft.classification) ?_ (laws fun owned ↦ owned) ClassDraft.takes_kind
    (sets_here lenientText)
  refine ⟨by simp [ClassDraft.slots], by simp [fieldSlot],
    by simp [ClassDraft.slots, fieldSlot], ?_⟩
  intro absent d d' c x hc _ hx hothers
  rw [finish_eq_ok] at hc ⊢
  simp_all [ClassDraft.slots, fieldSlot, setClassification]

theorem Class.sets_attributes {w : Json} {places : Places Json}
    {f : List Attribute → List Attribute}
    (h : Sets w (readList Attribute.shape.read) places f) :
    Sets w shape.tagged.read (inMember (membersAs shape.tagged.fields) "attributes" places)
      fun x ↦ (x.1, modifyAttributes f x.2) := by
  refine Shape.Changes.sets_tagged (fieldSlot ["attributes"] (readList Attribute.shape.read)
    ClassDraft.attributes) ?_ (laws fun owned ↦ owned) ClassDraft.takes_kind h
  refine ⟨by simp [ClassDraft.slots], by simp [fieldSlot],
    by simp [ClassDraft.slots, fieldSlot], ?_⟩
  intro absent d d' c (x : List Attribute) hc hx hfx hothers
  rw [finish_eq_ok] at hc ⊢
  simp_all [ClassDraft.slots, fieldSlot, modifyAttributes]

theorem Class.sets_owned {w : Json} {places : Places Json} {f : List Owned → List Owned}
    (h : Sets w (readList readOwned) places f) :
    Sets w shape.tagged.read (inMember (membersAs shape.tagged.fields) "ownedElements" places)
      fun x ↦ (x.1, modifyOwned f x.2) := by
  have hseen : Sets w (fun v ↦ (readList readOwned v).map fun owned ↦ owned) places f := by
    intro path v v' xs hplace hputs hread
    obtain ⟨owned, howned, rfl⟩ := map_eq_ok.mp hread
    exact map_eq_ok.mpr ⟨f owned, h _ _ _ _ hplace hputs howned, rfl⟩
  refine Shape.Changes.sets_tagged (fieldSlot ["ownedElements"]
    (fun v ↦ (readList readOwned v).map fun owned ↦ owned) fun d ↦ d.owned.map fun owned ↦ owned)
    ?_ (laws fun owned ↦ owned) ClassDraft.takes_kind hseen
  refine ⟨by simp [ClassDraft.slots], by simp [fieldSlot],
    by simp [ClassDraft.slots, fieldSlot], ?_⟩
  intro absent d d' c (x : List Owned) hc hx hfx hothers
  rw [finish_eq_ok] at hc ⊢
  simp_all [ClassDraft.slots, fieldSlot, modifyOwned]

/-- An enumeration with its literals changed. -/
def Enumeration.modifyLiterals (f : List Literal → List Literal) (e : Enumeration) : Enumeration :=
  { e with literals := f e.literals }

theorem Enumeration.sets_literals {w : Json} {places : Places Json}
    {f : List Literal → List Literal} (h : Sets w (readList Literal.shape.read) places f) :
    Sets w shape.tagged.read (inMember (membersAs shape.tagged.fields) "literals" places)
      fun x ↦ (x.1, modifyLiterals f x.2) := by
  refine Shape.Changes.sets_tagged (fieldSlot ["literals"] (readList Literal.shape.read)
    EnumerationDraft.literals) ?_ laws (by simp [EnumerationDraft.slots, fieldSlot]) h
  refine ⟨by simp [EnumerationDraft.slots], by simp [fieldSlot],
    by simp [EnumerationDraft.slots, fieldSlot], ?_⟩
  intro absent d d' e (x : List Literal) he hx hfx hothers
  rw [finish_eq_ok] at he ⊢
  simp_all [EnumerationDraft.slots, fieldSlot, modifyLiterals]

end DiagramMigrations.Diagram
