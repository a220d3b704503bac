import DiagramMigrations.Proofs.Diagram.Models
import DiagramMigrations.Proofs.Diagram.Types
import DiagramMigrations.Schema.Extraction

/-!
Edits of the model of a view that leave what is known of it alone. The members of any object may be
put in another order, a record may be given members that it does not know, and a class elements of
kinds that are not read. Each edit is made at one place, and at each place another thing is known.
-/

set_option autoImplicit false
set_option relaxedAutoImplicit false

namespace DiagramMigrations.Diagram

/-! ### Places and edits -/

/-- What a value in the model of a view is read as: a record, a list of records, or anything else.
-/
inductive Role
  | ofClass
  | ofEnumeration
  | ignored
  | attributes
  | ofAttribute
  | ownedElements
  | ofAssociation
  | ofEnd
  | literals
  | ofLiteral
  | plain
  deriving DecidableEq, Repr

namespace Role

/-- The fields of a record, in the order that an array has them in. -/
def fields : Role → List String
  | ofClass => Class.shape.tagged.fields
  | ofEnumeration => Enumeration.shape.tagged.fields
  | ignored => Diagram.ignored.tagged.fields
  | ofAttribute => Attribute.shape.fields
  | ofAssociation => Association.shape.tagged.fields
  | ofEnd => End.shape.fields
  | ofLiteral => Literal.shape.fields
  | attributes | ownedElements | literals | plain => []

/-- Whether a value is a record, the members of which are known or not. -/
def IsRecord (r : Role) : Prop :=
  r.fields ≠ []

/-- Whether a record knows a key: it is that of a field, or the other spelling of one. -/
def Knows (r : Role) (key : String) : Prop :=
  key ∈ r.fields ∨ r = ofAttribute ∧ key = "isID"

instance (r : Role) (key : String) : Decidable (r.Knows key) := instDecidableOr

/-- What the value of a member is read as. -/
def child : Role → String → Role
  | ofClass, "attributes" => attributes
  | ofClass, "ownedElements" => ownedElements
  | ofEnumeration, "literals" => literals
  | ofAssociation, "end1" | ofAssociation, "end2" => ofEnd
  | _, _ => plain

end Role

/-- What an owned element is read as, by its kind. -/
def ownedRole (v : Json) : Role :=
  match splitTag "" v with
  | .ok (.word "association", _) | .ok (.position 0, _) => .ofAssociation
  | .ok _ => .ignored
  | .error _ => .plain

/-- What the model of a view is read as, by its kind. -/
def modelRole (v : Json) : Role :=
  match splitTag "" v with
  | .ok (.word "class", _) => .ofClass
  | .ok (.word "enumeration", _) => .ofEnumeration
  | .ok _ => .ignored
  | .error _ => .plain

/-- What an element at a position of an array is read as: a record of a list, or a field of a
record. -/
def Role.item (r : Role) (position : Nat) (v : Json) : Role :=
  match r with
  | attributes => ofAttribute
  | ownedElements => ownedRole v
  | literals => ofLiteral
  | _ => (r.fields[position]?.map r.child).getD plain

/-- Whether a value is an object with one kind, and that is none of some. -/
def IsForeign (kinds : List String) (v : Json) : Prop :=
  ∃ members kind, v = .object members ∧
    members.filter (fun m ↦ m.1 = "kind") = [("kind", .text kind)] ∧ kind ∉ kinds

/-- Edits of a value, by what it is read as. -/
inductive Edit : Role → Json → Json → Prop
  | permute {r : Role} {ms ns : List (String × Json)} (hkeys : (ms.map Prod.fst).Nodup)
    (hperm : ms.Perm ns) : Edit r (.object ms) (.object ns)
  | insert {r : Role} {front rest : List (String × Json)} {key : String} {v : Json}
    (hrecord : r.IsRecord) (hkey : ¬ r.Knows key) :
    Edit r (.object (front ++ rest)) (.object (front ++ (key, v) :: rest))
  | insertOwned {front rest : List Json} {v : Json} (hv : IsForeign ["association"] v) :
    Edit .ownedElements (.array (front ++ rest)) (.array (front ++ v :: rest))
  | member {r : Role} {front rest : List (String × Json)} {key : String} {v w : Json}
    (h : Edit (r.child key) v w) :
    Edit r (.object (front ++ (key, v) :: rest)) (.object (front ++ (key, w) :: rest))
  | item {r : Role} {front rest : List Json} {v w : Json} (h : Edit (r.item front.length v) v w) :
    Edit r (.array (front ++ v :: rest)) (.array (front ++ w :: rest))

/-! ### Values that are not looked into -/

section Plain

variable {r : Role} {v w : Json}

/-- Only arrays and objects are edited. -/
theorem Edit.cases_nested (h : Edit r v w) :
    (∃ xs ys, v = .array xs ∧ w = .array ys) ∨ ∃ ms ns, v = .object ms ∧ w = .object ns := by
  cases h with
  | permute | insert | member => exact Or.inr ⟨_, _, rfl, rfl⟩
  | insertOwned | item => exact Or.inl ⟨_, _, rfl, rfl⟩

theorem Edit.readText_ne (h : Edit r v w) (s : String) : readText v ≠ .ok s := by
  rcases h.cases_nested with ⟨xs, ys, rfl, -⟩ | ⟨ms, ns, rfl, -⟩ <;> simp [readText]

theorem Edit.readFlag_ne (h : Edit r v w) (flag : Bool) : readFlag v ≠ .ok flag := by
  rcases h.cases_nested with ⟨xs, ys, rfl, -⟩ | ⟨ms, ns, rfl, -⟩ <;> simp [readFlag]

theorem Edit.readTag_ne (h : Edit r v w) (tag : Tag) : readTag v ≠ .ok tag := by
  rcases h.cases_nested with ⟨xs, ys, rfl, -⟩ | ⟨ms, ns, rfl, -⟩ <;> simp [readTag]

theorem Edit.lenientText?_eq (h : Edit r v w) : lenientText? w = lenientText? v := by
  rcases h.cases_nested with ⟨xs, ys, rfl, rfl⟩ | ⟨ms, ns, rfl, rfl⟩ <;> rfl

theorem Edit.lenientText_eq (h : Edit r v w) : lenientText w = lenientText v := by
  rw [lenientText, lenientText, h.lenientText?_eq]

/-- An edit of a value that is not looked into does not change its canonical form. -/
theorem Edit.canonical_eq (h : Edit r v w) (hr : r = .plain) : w.canonical = v.canonical := by
  induction h with
  | permute hkeys hperm =>
    rw [Json.canonical, Json.canonical, Json.canonicalMembers_perm hperm hkeys]
  | insert hrecord =>
    subst hr
    exact absurd rfl hrecord
  | insertOwned => cases hr
  | member h ih =>
    subst hr
    rw [Json.canonical, Json.canonical, Json.canonicalMembers_append, Json.canonicalMembers_append,
      Json.canonicalMembers, Json.canonicalMembers, ih rfl]
  | item h ih =>
    subst hr
    rw [Json.canonical, Json.canonical, Json.canonicalItems_eq, Json.canonicalItems_eq,
      List.map_append, List.map_append, List.map_cons, List.map_cons, ih rfl]

theorem referenceOf?_of_mem {members : List (String × Json)} (hv : ("$ref", v) ∈ members)
    (htext : ∀ s, v ≠ .text s) : referenceOf? members = none := by
  unfold referenceOf?
  split
  · rename_i key found hfilter
    have hmem : ("$ref", v) ∈ members.filter fun m ↦ m.1 = "$ref" :=
      List.mem_filter.mpr ⟨hv, by simp⟩
    rw [hfilter, List.mem_singleton] at hmem
    exact absurd (Prod.mk.inj hmem).2 (htext found)
  · rfl

theorem Edit.ne_text (h : Edit r v w) : (∀ s, v ≠ .text s) ∧ ∀ s, w ≠ .text s := by
  rcases h.cases_nested with ⟨xs, ys, rfl, rfl⟩ | ⟨ms, ns, rfl, rfl⟩ <;> simp

/-- What is read as a type is the same after an edit. -/
theorem Edit.readType_eq (h : Edit .plain v w) : readType w = readType v := by
  have hcanonical := h.canonical_eq rfl
  cases h with
  | insert hrecord => exact absurd rfl hrecord
  | item => exact congrArg AttributeType.other hcanonical
  | @permute _ ms ns hkeys hperm =>
    have hreference : referenceOf? ns = referenceOf? ms := by
      have hkeys' : (ns.map Prod.fst).Nodup := (hperm.map _).nodup_iff.mp hkeys
      refine Option.ext fun element ↦ ?_
      rw [AttributeType.referenceOf?_eq_some_iff hkeys',
        AttributeType.referenceOf?_eq_some_iff hkeys, hperm.mem_iff]
    rw [readType, readType, hreference, hcanonical]
  | @member _ front rest key v w h =>
    have hreference : referenceOf? (front ++ (key, w) :: rest) =
        referenceOf? (front ++ (key, v) :: rest) := by
      by_cases hkey : key = "$ref"
      · subst hkey
        rw [referenceOf?_of_mem (v := v) (List.mem_append_right _ List.mem_cons_self) h.ne_text.1,
          referenceOf?_of_mem (v := w) (List.mem_append_right _ List.mem_cons_self) h.ne_text.2]
      · have hfilter (u : Json) : (front ++ (key, u) :: rest).filter (fun m ↦ m.1 = "$ref") =
            (front ++ rest).filter fun m ↦ m.1 = "$ref" := by
          rw [List.filter_append, List.filter_cons_of_neg (by simpa using hkey),
            List.filter_append]
        rw [referenceOf?, referenceOf?, hfilter, hfilter]
    rw [readType, readType, hreference, hcanonical]

end Plain

/-! ### Records -/

section Records

variable {r : Role} {v w : Json} {ms ns : List (String × Json)}

/-- Edits of the members of a record. -/
inductive MembersEdit (r : Role) : List (String × Json) → List (String × Json) → Prop
  | permute {ms ns : List (String × Json)} (hperm : ms.Perm ns) : MembersEdit r ms ns
  | insert {front rest : List (String × Json)} {key : String} {v : Json} (hkey : ¬ r.Knows key) :
    MembersEdit r (front ++ rest) (front ++ (key, v) :: rest)
  | change {front rest : List (String × Json)} {key : String} {v w : Json}
    (h : Edit (r.child key) v w) :
    MembersEdit r (front ++ (key, v) :: rest) (front ++ (key, w) :: rest)

theorem Role.item_of_isRecord (hr : r.IsRecord) (position : Nat) (v : Json) :
    r.item position v = (r.fields[position]?.map r.child).getD .plain := by
  cases r with
  | attributes | ownedElements | literals => exact absurd rfl hr
  | _ => rfl

/-- An edit of a record is one of its members. -/
theorem Edit.exists_members (h : Edit r v w) (hr : r.IsRecord)
    (hms : membersAs r.fields v = some ms) :
    ∃ ns, membersAs r.fields w = some ns ∧ MembersEdit r ms ns := by
  cases h with
  | permute _ hperm =>
    obtain rfl := Option.some.inj hms
    exact ⟨_, rfl, .permute hperm⟩
  | insert _ hkey =>
    obtain rfl := Option.some.inj hms
    exact ⟨_, rfl, .insert hkey⟩
  | insertOwned => exact absurd rfl hr
  | member h =>
    obtain rfl := Option.some.inj hms
    exact ⟨_, rfl, .change h⟩
  | @item _ front rest a b h =>
    rw [membersAs] at hms
    split_ifs at hms with hlength
    obtain rfl := Option.some.inj hms
    obtain ⟨name, fields, others, hname, -, hzip⟩ := zip_append_cons hlength
    have hlength' : (front ++ b :: rest).length ≤ r.fields.length := by
      rwa [List.length_append, List.length_cons] at hlength ⊢
    rw [Role.item_of_isRecord hr, hname] at h
    refine ⟨_, if_pos hlength', ?_⟩
    rw [hzip a, hzip b]
    exact .change h

variable {Draft Result : Type} {slot : Slot Draft String Json Complaint}
  {x : Option slot.Value}

/-- A field that is known is not changed by an edit, if the reading of its value is not. -/
theorem MembersEdit.holds (h : MembersEdit r ms ns)
    (hknown : ∀ key, slot.takes key = true → r.Knows key)
    (hchild : ∀ {key v w}, slot.takes key = true → Edit (r.child key) v w →
      ∀ y, slot.read v = .ok y → slot.read w = .ok y)
    (hx : slot.Holds ms x) : slot.Holds ns x := by
  cases h with
  | permute hperm => exact hx.perm hperm
  | insert hkey => exact hx.insert (by simpa using mt (hknown _) hkey)
  | @change front rest key v w h =>
    by_cases hkey : slot.takes key = true
    · obtain ⟨⟨y, hy, rfl⟩, hchange⟩ := hx.change (w := w) hkey
      exact hchange y (hchild hkey h y hy)
    · exact hx.change_of_not (by simpa using hkey)

/-- Whether edits of a record are not seen in its fields. -/
def Role.Hides (r : Role) (slots : List (Slot Draft String Json Complaint)) : Prop :=
  ∀ slot ∈ slots, (∀ key, slot.takes key = true → r.Knows key) ∧
    ∀ {key v w}, slot.takes key = true → Edit (r.child key) v w →
      ∀ y, slot.read v = .ok y → slot.read w = .ok y

/-- A record is read as before after an edit that is not seen in its fields. -/
theorem Shape.Laws.read_of_edit {s : Shape Draft Result}
    {slots : List (Slot Draft String Json Complaint)} {Same : Result → Result → Prop}
    {result : Result} (laws : s.Laws slots Same) (hr : r.fields = s.fields) (hrecord : r.IsRecord)
    (hides : r.Hides slots) (hread : s.read v = .ok result) (h : Edit r v w) :
    ∃ result', s.read w = .ok result' ∧ Same result' result := by
  obtain ⟨ms, -, hms, -, -⟩ := (read_eq_ok laws.finish_any .missingField).mp hread
  obtain ⟨ns, hns, hedit⟩ := h.exists_members hrecord (hr ▸ hms)
  refine laws.read_of_holds hread hms (hr ▸ hns) fun slot hslot x hx ↦ ?_
  obtain ⟨hknown, hchild⟩ := hides slot hslot
  exact hedit.holds hknown hchild hx

end Records

/-! ### The records of a model -/

section Model

variable {Draft α : Type} {r role : Role} {keys : List String} {read : Json → Except Complaint α}
  {get : Draft → Option α} {v w : Json}

/-- Whether what is read from a value is read from it after an edit. -/
def Role.KeepsReading (role : Role) (read : Json → Except Complaint α) : Prop :=
  ∀ {v w}, Edit role v w → ∀ y, read v = .ok y → read w = .ok y

theorem Role.keepsReading_text : role.KeepsReading readText :=
  fun h y hy ↦ absurd hy (h.readText_ne y)

theorem Role.keepsReading_flag : role.KeepsReading readFlag :=
  fun h y hy ↦ absurd hy (h.readFlag_ne y)

theorem Role.keepsReading_tag : role.KeepsReading readTag :=
  fun h y hy ↦ absurd hy (h.readTag_ne y)

theorem Role.keepsReading_lenientText : role.KeepsReading fun v ↦ .ok (lenientText v) :=
  fun h _ hy ↦ (congrArg Except.ok h.lenientText_eq).trans hy

theorem Role.keepsReading_lenientText? : role.KeepsReading fun v ↦ .ok (lenientText? v) :=
  fun h _ hy ↦ (congrArg Except.ok h.lenientText?_eq).trans hy

theorem Role.keepsReading_type : Role.plain.KeepsReading fun v ↦ .ok (readType v) :=
  fun h _ hy ↦ (congrArg Except.ok h.readType_eq).trans hy

theorem Role.hides_cons {slot : Slot Draft String Json Complaint}
    {slots : List (Slot Draft String Json Complaint)}
    (hslot : (∀ key, slot.takes key = true → r.Knows key) ∧
      ∀ {key v w}, slot.takes key = true → Edit (r.child key) v w →
        ∀ y, slot.read v = .ok y → slot.read w = .ok y)
    (hslots : r.Hides slots) : r.Hides (slot :: slots) :=
  List.forall_mem_cons.mpr ⟨hslot, hslots⟩

theorem Role.hides_nil : r.Hides ([] : List (Slot Draft String Json Complaint)) := by
  simp [Hides]

/-- An edit is not seen in a field that is known, if it is not seen in the value of the field. -/
theorem Role.hides_field (role : Role) (hkeys : ∀ key ∈ keys, r.Knows key ∧ r.child key = role)
    (hread : role.KeepsReading read) {slots : List (Slot Draft String Json Complaint)}
    (hslots : r.Hides slots) : r.Hides (fieldSlot keys read get :: slots) := by
  refine hides_cons ⟨fun key hkey ↦ ?_, fun {key v w} hkey h ↦ ?_⟩ hslots
  · exact (hkeys key (of_decide_eq_true hkey)).1
  · rw [(hkeys key (of_decide_eq_true hkey)).2] at h
    exact hread h

theorem Role.hides_attribute : Role.ofAttribute.Hides AttributeDraft.slots :=
  hides_field .plain (by decide) keepsReading_text <|
    hides_field .plain (by decide) keepsReading_type <|
    hides_field .plain (by decide) keepsReading_lenientText? <|
    hides_field .plain (by decide) keepsReading_flag <|
    hides_field .plain (by decide) keepsReading_flag <|
    hides_field .plain (by decide) keepsReading_lenientText <|
    hides_field .plain (by decide) keepsReading_lenientText <|
    hides_field .plain (by decide) keepsReading_lenientText hides_nil

theorem Role.keepsReading_attribute : Role.ofAttribute.KeepsReading Attribute.shape.read := by
  intro v w h a ha
  obtain ⟨a', ha', rfl⟩ := Attribute.laws.read_of_edit rfl
    (by simp [IsRecord, fields, Attribute.shape]) hides_attribute ha h
  exact ha'

theorem Role.hides_end : Role.ofEnd.Hides EndDraft.slots :=
  hides_field .plain (by decide) keepsReading_lenientText <|
    hides_field .plain (by decide) keepsReading_text hides_nil

theorem Role.keepsReading_end : Role.ofEnd.KeepsReading End.shape.read := by
  intro v w h e he
  obtain ⟨e', he', rfl⟩ := End.laws.read_of_edit rfl (by simp [IsRecord, fields, End.shape])
    hides_end he h
  exact he'

theorem Role.hides_literal : Role.ofLiteral.Hides LiteralDraft.slots :=
  hides_field .plain (by decide) keepsReading_text <|
    hides_field .plain (by decide) keepsReading_lenientText hides_nil

theorem Role.keepsReading_literal : Role.ofLiteral.KeepsReading Literal.shape.read := by
  intro v w h l hl
  obtain ⟨l', hl', rfl⟩ := Literal.laws.read_of_edit rfl (by simp [IsRecord, fields, Literal.shape])
    hides_literal hl h
  exact hl'

theorem Role.hides_association : Role.ofAssociation.Hides (taggedSlots AssociationDraft.slots) :=
  hides_field .plain (by decide) keepsReading_tag <|
    hides_field .plain (by decide) keepsReading_text <|
    hides_field .ofEnd (by decide) keepsReading_end <|
    hides_field .ofEnd (by decide) keepsReading_end hides_nil

/-- A list of records that cannot be added to is read as before, if its elements are. -/
theorem Role.keepsReading_list (hlist : r ≠ .ownedElements)
    (hitem : ∀ position v, r.item position v = role) (hread : role.KeepsReading read) :
    r.KeepsReading (readList read) := by
  intro v w h xs hxs
  cases h with
  | permute | insert | member => cases hxs
  | insertOwned => exact absurd rfl hlist
  | @item _ front rest a b h =>
    rw [hitem] at h
    obtain ⟨before, x, behind, hbefore, hx, hbehind, rfl⟩ := mapM_append_cons_eq_ok.mp hxs
    exact mapM_append_cons_eq_ok.mpr ⟨before, x, behind, hbefore, hread h x hx, hbehind, rfl⟩

theorem Role.keepsReading_attributes :
    Role.attributes.KeepsReading (readList Attribute.shape.read) :=
  keepsReading_list (by simp) (fun _ _ ↦ rfl) keepsReading_attribute

theorem Role.keepsReading_literals : Role.literals.KeepsReading (readList Literal.shape.read) :=
  keepsReading_list (by simp) (fun _ _ ↦ rfl) keepsReading_literal

/-! ### What a class owns -/

theorem Role.hides_ignored :
    Role.ignored.Hides (taggedSlots ([] : List (Slot Unit String Json Complaint))) :=
  hides_field .plain (by decide) keepsReading_tag hides_nil

theorem ignored_tagged_laws : ignored.tagged.Laws (taggedSlots [])
    (fun x y : Tag × Unit ↦ x.1 = y.1 ∧ x.2 = y.2) :=
  ignored_laws.tagged (by simp)

theorem keepsReading_ignored {tag : Tag} (h : Edit .ignored v w)
    (hread : ignored.tagged.read v = .ok (tag, ())) : ignored.tagged.read w = .ok (tag, ()) := by
  obtain ⟨⟨tag', ⟨⟩⟩, hread', rfl, -⟩ := ignored_tagged_laws.read_of_edit rfl
    (by simp [Role.IsRecord, Role.fields, Shape.tagged]) Role.hides_ignored hread h
  exact hread'

theorem association_tagged_laws : Association.shape.tagged.Laws
    (taggedSlots AssociationDraft.slots) (fun x y ↦ x.1 = y.1 ∧ x.2 = y.2) :=
  Association.laws.tagged (by simp [AssociationDraft.slots, fieldSlot])

theorem keepsReading_association {tag : Tag} {a : Association} (h : Edit .ofAssociation v w)
    (hread : Association.shape.tagged.read v = .ok (tag, a)) :
    Association.shape.tagged.read w = .ok (tag, a) := by
  obtain ⟨⟨tag', a'⟩, hread', rfl, rfl⟩ := association_tagged_laws.read_of_edit rfl
    (by simp [Role.IsRecord, Role.fields, Shape.tagged]) Role.hides_association hread h
  exact hread'

/-- An owned element is read as before after an edit. -/
theorem readOwned_of_edit {o : Owned} (h : Edit (ownedRole v) v w) (ho : readOwned v = .ok o) :
    readOwned w = .ok o := by
  rcases readOwned_eq_ok.mp ho with @⟨tag, a, htag, hread⟩ | @⟨tag, htag, hread⟩
  · obtain ⟨body, hsplit⟩ := exists_splitTag_of_read Association.laws
      (by simp [Association.shape]) hread
    have hrole : ownedRole v = .ofAssociation := by
      rw [ownedRole, hsplit]
      rcases htag with rfl | rfl <;> rfl
    exact readOwned_eq_ok.mpr (.association htag (keepsReading_association (hrole ▸ h) hread))
  · obtain ⟨body, hsplit⟩ := exists_splitTag_of_read ignored_laws (by simp [ignored]) hread
    have hrole : ownedRole v = .ignored := by
      rw [ownedRole, hsplit]
      split
      · rename_i heq
        exact absurd (Or.inl (Prod.mk.inj (Except.ok.inj heq)).1) htag
      · rename_i heq
        exact absurd (Or.inr (Prod.mk.inj (Except.ok.inj heq)).1) htag
      · rfl
      · rename_i heq
        cases heq
    exact readOwned_eq_ok.mpr (.other htag (keepsReading_ignored (hrole ▸ h) hread))

/-- An object of a foreign kind is read as a record of which nothing is read. -/
theorem IsForeign.exists_read {kinds : List String} (h : IsForeign kinds v) :
    ∃ kind, kind ∉ kinds ∧ ignored.tagged.read v = .ok (.word kind, ()) := by
  obtain ⟨members, kind, rfl, hmembers, hkind⟩ := h
  refine ⟨kind, hkind, ?_⟩
  have hholds : Slot.Holds (fieldSlot ["kind"] readTag Prod.fst : Slot (Option Tag × Unit) _ _ _)
      members (some (.word kind)) := by
    refine Slot.holds_some_iff.mpr ⟨("kind", .text kind), ?_, rfl⟩
    simpa [Slot.members, fieldSlot] using hmembers
  obtain ⟨⟨tag, ⟨⟩⟩, hd, hread⟩ := ignored_tagged_laws.exists_read (v := .object members) rfl
    (List.forall_mem_cons.mpr ⟨⟨_, hholds⟩, by simp⟩)
  have htag : tag = some (.word kind) := (hd _ List.mem_cons_self).unique hholds
  exact hread .missingField _ (Shape.finish_tagged_eq_ok.mpr ⟨htag, rfl⟩)

theorem Role.keepsReading_owned : Role.ownedElements.KeepsReading fun v ↦
    (readList readOwned v).map (List.filterMap Owned.association?) := by
  intro v w h seen hseen
  obtain ⟨owned, howned, rfl⟩ := map_eq_ok.mp hseen
  cases h with
  | permute | member => cases howned
  | insert hrecord => exact absurd rfl hrecord
  | insertOwned hv =>
    obtain ⟨kind, hkind, hread⟩ := hv.exists_read
    have hother : readOwned _ = .ok .other := readOwned_eq_ok.mpr
      (.other (by simpa [Tag.IsAssociation] using hkind) hread)
    obtain ⟨before, behind, hbefore, hbehind, rfl⟩ := mapM_append_eq_ok.mp howned
    refine map_eq_ok.mpr ⟨before ++ .other :: behind, mapM_append_cons_eq_ok.mpr
      ⟨before, .other, behind, hbefore, hother, hbehind, rfl⟩, ?_⟩
    rw [List.filterMap_append, List.filterMap_append, List.filterMap_cons_none rfl]
  | @item _ front rest a b h =>
    obtain ⟨before, o, behind, hbefore, ho, hbehind, rfl⟩ := mapM_append_cons_eq_ok.mp howned
    exact map_eq_ok.mpr ⟨_, mapM_append_cons_eq_ok.mpr
      ⟨before, o, behind, hbefore, readOwned_of_edit h ho, hbehind, rfl⟩, rfl⟩

/-! ### Models -/

theorem Role.hides_class :
    Role.ofClass.Hides (taggedSlots (ClassDraft.slots (List.filterMap Owned.association?))) :=
  hides_field .plain (by decide) keepsReading_tag <|
    hides_field .plain (by decide) keepsReading_text <|
    hides_field .plain (by decide) keepsReading_text <|
    hides_field .plain (by decide) keepsReading_lenientText <|
    hides_field .attributes (by decide) keepsReading_attributes <|
    hides_field .ownedElements (by decide) keepsReading_owned hides_nil

theorem Role.hides_enumeration : Role.ofEnumeration.Hides (taggedSlots EnumerationDraft.slots) :=
  hides_field .plain (by decide) keepsReading_tag <|
    hides_field .plain (by decide) keepsReading_text <|
    hides_field .plain (by decide) keepsReading_text <|
    hides_field .literals (by decide) keepsReading_literals hides_nil

end Model

/-- A class with nothing but associations among what it owns. -/
def Class.bare (c : Class) : Class :=
  { c with owned := (c.owned.filterMap Owned.association?).map Owned.association }

/-- Whether two elements are the same for a schema: classes that own the same associations, equal
enumerations, or elements that are neither. -/
def Element.Same (e e' : Element) : Prop :=
  e.class?.map Class.bare = e'.class?.map Class.bare ∧ e.enumeration? = e'.enumeration?

theorem Class.SameBut.bare_eq {c c' : Class}
    (h : Class.SameBut (List.filterMap Owned.association?) c c') : c.bare = c'.bare := by
  obtain ⟨hrest, howned⟩ := h
  rw [Class.bare, Class.bare, howned]
  simp only [Class.mk.injEq] at hrest ⊢
  exact ⟨hrest.1, hrest.2.1, hrest.2.2.1, hrest.2.2.2.1, trivial⟩

/-- A model is read as the same after an edit. -/
theorem Models.exists_of_edit {v w : Json} {e : Element} (hmodel : Models v e)
    (h : Edit (modelRole v) v w) : ∃ e', Models w e' ∧ e'.Same e := by
  rcases hmodel with @⟨c, hread⟩ | @⟨e, hread⟩ | @⟨kind, hclass, henumeration, hread⟩
  · have laws := (Class.laws (List.filterMap Owned.association?)).tagged
      (by simp [ClassDraft.slots, fieldSlot])
    obtain ⟨body, hsplit⟩ := exists_splitTag_of_read (Class.laws id) (by simp [Class.shape]) hread
    have hrole : modelRole v = .ofClass := by
      rw [modelRole, hsplit]
      rfl
    obtain ⟨⟨tag', c'⟩, hread', rfl, hsame⟩ := laws.read_of_edit rfl
      (by simp [Role.IsRecord, Role.fields, Shape.tagged]) Role.hides_class hread (hrole ▸ h)
    exact ⟨.ofClass c', .ofClass hread', congrArg some hsame.bare_eq, rfl⟩
  · have laws := Enumeration.laws.tagged (by simp [EnumerationDraft.slots, fieldSlot])
    obtain ⟨body, hsplit⟩ := exists_splitTag_of_read Enumeration.laws
      (by simp [Enumeration.shape]) hread
    have hrole : modelRole v = .ofEnumeration := by
      rw [modelRole, hsplit]
      rfl
    obtain ⟨⟨tag', e'⟩, hread', rfl, hsame⟩ := laws.read_of_edit rfl
      (by simp [Role.IsRecord, Role.fields, Shape.tagged]) Role.hides_enumeration hread (hrole ▸ h)
    obtain rfl : e' = e := hsame
    exact ⟨.ofEnumeration e', .ofEnumeration hread', rfl, rfl⟩
  · obtain ⟨body, hsplit⟩ := exists_splitTag_of_read ignored_laws (by simp [ignored]) hread
    have hrole : modelRole v = .ignored := by
      rw [modelRole, hsplit]
      split
      · rename_i heq
        exact absurd (Tag.word.inj (Prod.mk.inj (Except.ok.inj heq)).1) hclass
      · rename_i heq
        exact absurd (Tag.word.inj (Prod.mk.inj (Except.ok.inj heq)).1) henumeration
      · rfl
      · rename_i heq
        cases heq
    exact ⟨.other, .other hclass henumeration (keepsReading_ignored (hrole ▸ h) hread), rfl, rfl⟩

end DiagramMigrations.Diagram
