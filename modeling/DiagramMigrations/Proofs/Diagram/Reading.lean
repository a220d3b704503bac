import DiagramMigrations.Diagram.Document
import DiagramMigrations.Proofs.Diagram.Types
import DiagramMigrations.Proofs.Except
import DiagramMigrations.Proofs.Json.Tree

/-!
What the types of a diagram are that has been read from a document. They nest no deeper than the
document leaves room for, list the members of objects in order, and hold no text as another value.
-/

set_option autoImplicit false
set_option relaxedAutoImplicit false

namespace DiagramMigrations.Diagram

open Json (Tree Key)

/-! ### Records -/

section Record

variable {Draft Result : Type} {s : Shape Draft Result} {p : Draft → Prop} {v : Json}

/-- A record is finished from a draft that has what the taking of each field keeps. -/
theorem Shape.read_keeps {result : Result} (h : s.read v = .ok result) (hempty : p s.empty)
    (htake : ∀ draft field, ∀ value ∈ v.children, ∀ next, p draft →
      s.take draft field value = .ok next → p next) :
    ∃ draft absent, p draft ∧ s.finish absent draft = .ok result := by
  cases v with
  | null | boolean | number | text => cases h
  | object members =>
    obtain ⟨draft, hdraft, h⟩ := bind_eq_ok.mp h
    exact ⟨draft, _, foldlM_keeps_of_mem (fun d m hm ↦
      htake d m.1 m.2 (List.mem_map_of_mem hm)) hempty hdraft, h⟩
  | array items =>
    obtain ⟨draft, hdraft, h⟩ := bind_eq_ok.mp h
    obtain ⟨found, hfound, h⟩ := bind_eq_ok.mp h
    obtain rfl : found = result := by
      dsimp only at h
      split_ifs at h
      · cases h
      · exact Except.ok.inj h
    exact ⟨draft, _, foldlM_keeps_of_mem (fun d m hm ↦
      htake d m.1 m.2 (List.of_mem_zip hm).2) hempty hdraft, hfound⟩

theorem exists_mem_of_readList {α : Type} {read : Json → Except Complaint α} {xs : List α}
    (h : readList read v = .ok xs) : ∀ x ∈ xs, ∃ item ∈ v.children, read item = .ok x := by
  cases v with
  | null | boolean | number | text | object => cases h
  | array items => exact exists_mem_of_mapM h

theorem eq_some_of_once {α : Type} {field : String} {slot filled : Option α}
    {value : Except Complaint α} (h : once field slot value = .ok filled) :
    ∃ x, value = .ok x ∧ filled = some x := by
  cases slot with
  | some _ => cases h
  | none =>
    cases value with
    | error _ => cases h
    | ok x => exact ⟨x, rfl, (Except.ok.inj h).symm⟩

end Record

/-! ### The types of an element -/

/-- Whether a type is one that can be read where arrays and objects nest to a depth: its value does
so and is sorted, and a text is never kept as another value. -/
structure AttributeType.Readable (room : Nat) (t : AttributeType) : Prop where
  depth_le : t.toJson.depth ≤ room
  sorted : t.toJson.Sorted
  ne_text : ∀ s, t ≠ .other (.text s)

section Readable

variable {room : Nat}

theorem AttributeType.readable_name (text : String) : (name text).Readable room :=
  ⟨Nat.zero_le room, Json.sorted_text, by simp⟩

theorem AttributeType.readable_other {v : Json} (hdepth : v.depth ≤ room)
    (htext : ∀ s, v.canonical ≠ .text s) : (other v.canonical).Readable room :=
  ⟨Json.depth_canonical_le hdepth, v.sorted_canonical, by simpa using htext⟩

theorem AttributeType.readable_readType {v : Json} (h : v.depth ≤ room) :
    (readType v).Readable room := by
  cases v with
  | text s => exact readable_name s
  | null | boolean | number | array => exact readable_other h (by simp [Json.canonical])
  | object members =>
    rw [readType]
    split
    · have hroom : 1 ≤ room := le_trans (Nat.le_add_left 1 _) (Json.depth.eq_def _ ▸ h)
      exact ⟨hroom, by simp [toJson, Json.sorted_object], by simp⟩
    · exact readable_other h (by simp [Json.canonical])

theorem AttributeDraft.declaredType_of_take {d next : AttributeDraft} {field : String}
    {value : Json} (h : d.take field value = .ok next) :
    next.declaredType = d.declaredType ∨ next.declaredType = some (readType value) := by
  unfold AttributeDraft.take at h
  split at h
  -- the field `type`
  case h_2 =>
    obtain ⟨slot, hslot, h⟩ := bind_eq_ok.mp h
    obtain ⟨t, ht, rfl⟩ := eq_some_of_once hslot
    cases h
    exact Or.inr (congrArg some (Except.ok.inj ht).symm)
  -- a field that is not known: nothing is filled
  case h_10 =>
    cases h
    exact Or.inl rfl
  all_goals
    obtain ⟨slot, -, h⟩ := bind_eq_ok.mp h
    cases h
    exact Or.inl rfl

/-- The type of an attribute nests one level less deep than the value it is read from. -/
theorem Attribute.readable_of_read {v : Json} {a : Attribute} (h : shape.read v = .ok a)
    (hdepth : v.depth ≤ room + 1) : a.declaredType.Readable room := by
  obtain ⟨draft, absent, hdraft, hfinish⟩ := Shape.read_keeps
    (p := fun d ↦ ∀ t, d.declaredType = some t → t.Readable room) h (by simp [shape]) <| by
      intro d field value hvalue next hd htake t ht
      rcases AttributeDraft.declaredType_of_take htake with hkept | hread
      · exact hd t (hkept ▸ ht)
      · obtain rfl : readType value = t := Option.some.inj (hread ▸ ht)
        exact AttributeType.readable_readType (Json.depth_le_of_mem_children hvalue hdepth)
  obtain ⟨name, -, hfinish⟩ := bind_eq_ok.mp hfinish
  cases hfinish
  change (draft.declaredType.getD (.name "")).Readable room
  cases ht : draft.declaredType with
  | none => exact AttributeType.readable_name ""
  | some t => exact hdraft t ht

theorem ClassDraft.attributes_of_take {d next : ClassDraft} {field : String} {value : Json}
    (h : d.take field value = .ok next) :
    next.attributes = d.attributes ∨
      ∃ attributes, readList Attribute.shape.read value = .ok attributes ∧
        next.attributes = some attributes := by
  unfold ClassDraft.take at h
  split at h
  -- the field `attributes`
  case h_4 =>
    obtain ⟨slot, hslot, h⟩ := bind_eq_ok.mp h
    obtain ⟨attributes, hattributes, rfl⟩ := eq_some_of_once hslot
    cases h
    exact Or.inr ⟨attributes, hattributes, rfl⟩
  -- a field that is not known: nothing is filled
  case h_6 =>
    cases h
    exact Or.inl rfl
  all_goals
    obtain ⟨slot, -, h⟩ := bind_eq_ok.mp h
    cases h
    exact Or.inl rfl

/-- The types of a class nest three levels less deep: below its object, the list of attributes and
the object of the attribute. -/
theorem Class.readable_of_read {v : Json} {c : Class} (h : shape.read v = .ok c)
    (hdepth : v.depth ≤ room + 3) : ∀ a ∈ c.attributes, a.declaredType.Readable room := by
  obtain ⟨draft, absent, hdraft, hfinish⟩ := Shape.read_keeps
    (p := fun d ↦ ∀ attributes ∈ d.attributes,
      ∀ a ∈ attributes, a.declaredType.Readable room) h (by simp [shape]) <| by
      intro d field value hvalue next hd htake attributes hattributes a ha
      rcases ClassDraft.attributes_of_take htake with hkept | ⟨read, hread, hnext⟩
      · exact hd attributes (hkept ▸ hattributes) a ha
      · obtain rfl : read = attributes := Option.some.inj (hnext ▸ hattributes)
        obtain ⟨item, hitem, ha⟩ := exists_mem_of_readList hread a ha
        exact Attribute.readable_of_read ha (Json.depth_le_of_mem_children hitem
          (Json.depth_le_of_mem_children hvalue hdepth))
  obtain ⟨id, -, hfinish⟩ := bind_eq_ok.mp hfinish
  obtain ⟨name, -, hfinish⟩ := bind_eq_ok.mp hfinish
  cases hfinish
  exact forall_mem_getD hdraft

theorem readable_of_readElement {kind : String} {body : Json} {e : Element}
    (h : readElement kind body = .ok e) (hdepth : body.depth ≤ room + 3) :
    ∀ t ∈ e.types, t.Readable room := by
  unfold readElement at h
  split at h
  · obtain ⟨c, hc, h⟩ := bind_eq_ok.mp h
    cases h
    exact List.forall_mem_map.mpr (Class.readable_of_read hc hdepth)
  all_goals
    obtain ⟨_, -, h⟩ := bind_eq_ok.mp h
    cases h
    exact fun t ht ↦ absurd ht List.not_mem_nil

end Readable

/-! ### The types of a document -/

theorem depth_le_of_takeKind {room : Nat} {state next : Option String × List (String × Json)}
    {member : Key × Tree} (hstate : ∀ m ∈ state.2, m.2.depth ≤ room)
    (h : takeKind room state member = .ok next) : ∀ m ∈ next.2, m.2.depth ≤ room := by
  obtain ⟨key, -, h⟩ := bind_eq_ok.mp h
  split_ifs at h
  · obtain ⟨_, -, h⟩ := bind_eq_ok.mp h
    obtain ⟨_, -, h⟩ := bind_eq_ok.mp h
    cases h
    exact hstate
  · obtain ⟨value, hvalue, h⟩ := bind_eq_ok.mp h
    cases h
    refine List.forall_mem_append.mpr ⟨hstate, List.forall_mem_singleton.mpr ?_⟩
    exact Tree.depth_le_of_value (mapError_eq_ok.mp hvalue)

theorem depth_le_of_splitKind {room : Nat} {t : Tree} {kind : String} {body : Json}
    (h : splitKind (room + 1) t = .ok (kind, body)) : body.depth ≤ room + 1 := by
  cases t with
  | null | boolean | number | text | broken => cases h
  | object members stop =>
    obtain ⟨⟨_, rest⟩, hrest, h⟩ := bind_eq_ok.mp h
    obtain ⟨_, -, h⟩ := bind_eq_ok.mp h
    obtain ⟨_, -, h⟩ := bind_eq_ok.mp h
    cases h
    exact Json.depth_object_le.mpr
      (foldlM_keeps (fun _ _ _ ↦ depth_le_of_takeKind) (by simp) hrest)
  | array items stop =>
    cases items with
    | nil =>
      obtain ⟨_, -, h⟩ := bind_eq_ok.mp h
      cases h
    | cons first items =>
      obtain ⟨_, -, h⟩ := bind_eq_ok.mp h
      obtain ⟨rest, hrest, h⟩ := bind_eq_ok.mp h
      obtain ⟨_, -, h⟩ := bind_eq_ok.mp h
      cases h
      exact Json.depth_array_le.mpr (Tree.depth_le_of_values (mapError_eq_ok.mp hrest))

/-- The arrays and objects that may be nested in the type of an attribute. -/
def typeRoom : Nat := modelRoom - 3

/-- Whether all types of an element can be read where a document has them. -/
def Element.Readable (e : Element) : Prop :=
  ∀ t ∈ e.types, t.Readable typeRoom

theorem readable_of_readModel {t : Tree} {e : Element} (h : readModel t = .ok e) :
    e.Readable := by
  obtain ⟨⟨kind, body⟩, hsplit, h⟩ := bind_eq_ok.mp h
  exact readable_of_readElement (mapError_eq_ok.mp h) (depth_le_of_splitKind hsplit)

theorem readable_of_takeModel {model next : Option Element} {member : Key × Tree}
    (hmodel : ∀ e ∈ model, e.Readable) (h : takeModel model member = .ok next) :
    ∀ e ∈ next, e.Readable := by
  obtain ⟨key, -, h⟩ := bind_eq_ok.mp h
  split_ifs at h
  · obtain ⟨_, -, h⟩ := bind_eq_ok.mp h
    obtain ⟨read, hread, h⟩ := bind_eq_ok.mp h
    cases h
    rintro e ⟨⟩
    exact readable_of_readModel hread
  · obtain ⟨_, -, h⟩ := bind_eq_ok.mp h
    cases h
    exact hmodel

theorem readable_of_readView {t : Tree} {e : Element} (h : readView t = .ok e) :
    e.Readable := by
  cases t with
  | null | boolean | number | text | broken => cases h
  | object members stop =>
    obtain ⟨model, hmodel, h⟩ := bind_eq_ok.mp h
    obtain ⟨_, -, h⟩ := bind_eq_ok.mp h
    have hread : ∀ e ∈ model, e.Readable :=
      foldlM_keeps (fun _ _ _ ↦ readable_of_takeModel) (by simp) hmodel
    cases model with
    | none => cases h
    | some found =>
      obtain rfl : found = e := Except.ok.inj h
      exact hread found rfl
  | array items stop =>
    cases items with
    | nil =>
      obtain ⟨_, -, h⟩ := bind_eq_ok.mp h
      cases h
    | cons model surplus =>
      obtain ⟨found, hfound, h⟩ := bind_eq_ok.mp h
      dsimp only at h
      split_ifs at h
      · cases h
      · obtain ⟨_, -, h⟩ := bind_eq_ok.mp h
        obtain rfl : found = e := Except.ok.inj h
        exact readable_of_readModel hfound

theorem readable_of_readViews {t : Tree} {elements : List Element}
    (h : readViews t = .ok elements) : ∀ e ∈ elements, e.Readable := by
  cases t with
  | null | boolean | number | text | broken | object => cases h
  | array views stop =>
    obtain ⟨read, hread, h⟩ := bind_eq_ok.mp h
    obtain ⟨_, -, h⟩ := bind_eq_ok.mp h
    cases h
    intro e he
    obtain ⟨view, -, hview⟩ := exists_mem_of_mapM hread e he
    exact readable_of_readView hview

theorem DiagramDraft.readable_of_take {draft next : DiagramDraft} {member : Key × Tree}
    (hdraft : ∀ elements ∈ draft.elements, ∀ e ∈ elements, e.Readable)
    (h : draft.take member = .ok next) :
    ∀ elements ∈ next.elements, ∀ e ∈ elements, e.Readable := by
  obtain ⟨key, -, h⟩ := bind_eq_ok.mp h
  split at h
  · obtain ⟨_, -, h⟩ := bind_eq_ok.mp h
    obtain ⟨_, -, h⟩ := bind_eq_ok.mp h
    cases h
    exact hdraft
  · obtain ⟨_, -, h⟩ := bind_eq_ok.mp h
    obtain ⟨read, hread, h⟩ := bind_eq_ok.mp h
    cases h
    rintro elements ⟨⟩
    exact readable_of_readViews hread
  · obtain ⟨_, -, h⟩ := bind_eq_ok.mp h
    cases h
    exact hdraft

theorem readable_of_readDiagram {t : Tree} {d : Diagram} (h : readDiagram t = .ok d) :
    ∀ e ∈ d.elements, e.Readable := by
  cases t with
  | null | boolean | number | text | broken => cases h
  | object members stop =>
    obtain ⟨draft, hdraft, h⟩ := bind_eq_ok.mp h
    obtain ⟨_, -, h⟩ := bind_eq_ok.mp h
    cases h
    have hread : ∀ elements ∈ draft.elements, ∀ e ∈ elements, e.Readable :=
      foldlM_keeps (fun _ _ _ ↦ DiagramDraft.readable_of_take) (by simp) hdraft
    exact forall_mem_getD hread
  | array items stop =>
    rcases items with _ | ⟨name, _ | ⟨views, surplus⟩⟩
    · obtain ⟨_, -, h⟩ := bind_eq_ok.mp h
      cases h
      exact fun e he ↦ absurd he List.not_mem_nil
    · obtain ⟨_, -, h⟩ := bind_eq_ok.mp h
      obtain ⟨_, -, h⟩ := bind_eq_ok.mp h
      cases h
      exact fun e he ↦ absurd he List.not_mem_nil
    · obtain ⟨_, -, h⟩ := bind_eq_ok.mp h
      obtain ⟨elements, helements, h⟩ := bind_eq_ok.mp h
      dsimp only at h
      split_ifs at h
      · cases h
      · obtain ⟨_, -, h⟩ := bind_eq_ok.mp h
        cases h
        exact readable_of_readViews helements

/-- The types of a diagram that is read from a document. -/
theorem readable_of_parse {text : String} {d : Diagram} (h : parse text = .ok d) :
    ∀ t ∈ d.types, t.Readable typeRoom := by
  obtain ⟨found, hfound, h⟩ := bind_eq_ok.mp h
  dsimp only at h
  split_ifs at h
  · cases h
  · obtain rfl : found = d := Except.ok.inj h
    exact List.forall_mem_flatMap.mpr (readable_of_readDiagram hfound)

end DiagramMigrations.Diagram
