import DiagramMigrations.Json.Value
import Mathlib.Data.String.Basic

/-!
The shape of JSON values: the values in them, how deep they nest and how their objects are sorted.
The canonical form is sorted and no deeper, and a sorted value is its own canonical form.
-/

set_option autoImplicit false
set_option relaxedAutoImplicit false

namespace DiagramMigrations.Json

/-- What holds of a value whenever it holds of the elements or members in it holds of every
value. -/
@[elab_as_elim]
theorem induction {p : Json → Prop} (null : p .null) (boolean : ∀ value, p (.boolean value))
    (number : ∀ value, p (.number value)) (text : ∀ value, p (.text value))
    (array : ∀ items, (∀ item ∈ items, p item) → p (.array items))
    (object : ∀ members, (∀ m ∈ members, p m.2) → p (.object members)) (v : Json) : p v :=
  Json.rec (motive_1 := p) (motive_2 := fun items ↦ ∀ item ∈ items, p item)
    (motive_3 := fun members ↦ ∀ m ∈ members, p m.2) (motive_4 := fun m ↦ p m.2)
    null boolean number text (fun items h ↦ array items h) (fun members h ↦ object members h)
    (fun _ h ↦ absurd h List.not_mem_nil)
    (fun _ _ hitem hrest ↦ List.forall_mem_cons.mpr ⟨hitem, hrest⟩)
    (fun _ h ↦ absurd h List.not_mem_nil)
    (fun _ _ hmember hrest ↦ List.forall_mem_cons.mpr ⟨hmember, hrest⟩) (fun _ _ h ↦ h) v

/-! ### The values in a value -/

mutual

/-- A value and all values in it. -/
def parts : Json → List Json
  | .array items => .array items :: itemParts items
  | .object members => .object members :: memberParts members
  | value => [value]

/-- The elements and all values in them. -/
def itemParts : List Json → List Json
  | [] => []
  | item :: rest => parts item ++ itemParts rest

/-- The values of the members and all values in them. -/
def memberParts : List (String × Json) → List Json
  | [] => []
  | (_, item) :: rest => parts item ++ memberParts rest

end

theorem mem_itemParts {v : Json} {items : List Json} :
    v ∈ itemParts items ↔ ∃ item ∈ items, v ∈ parts item := by
  induction items with
  | nil => simp [itemParts]
  | cons item rest ih => simp [itemParts, ih]

theorem mem_memberParts {v : Json} {members : List (String × Json)} :
    v ∈ memberParts members ↔ ∃ m ∈ members, v ∈ parts m.2 := by
  induction members with
  | nil => simp [memberParts]
  | cons m rest ih =>
    obtain ⟨key, item⟩ := m
    simp [memberParts, ih]

/-- The elements of an array, or the values of the members of an object. -/
def children : Json → List Json
  | .array items => items
  | .object members => members.map Prod.snd
  | _ => []

/-! ### Depth -/

mutual

/-- The number of arrays and objects that are nested in one another. -/
def depth : Json → Nat
  | .array items => itemsDepth items + 1
  | .object members => membersDepth members + 1
  | _ => 0

/-- The depth of the deepest element. -/
def itemsDepth : List Json → Nat
  | [] => 0
  | item :: rest => max (depth item) (itemsDepth rest)

/-- The depth of the deepest member. -/
def membersDepth : List (String × Json) → Nat
  | [] => 0
  | (_, item) :: rest => max (depth item) (membersDepth rest)

end

theorem itemsDepth_le {n : Nat} {items : List Json} :
    itemsDepth items ≤ n ↔ ∀ item ∈ items, item.depth ≤ n := by
  induction items with
  | nil => simp [itemsDepth]
  | cons item rest ih => simp [itemsDepth, ih]

theorem membersDepth_le {n : Nat} {members : List (String × Json)} :
    membersDepth members ≤ n ↔ ∀ m ∈ members, m.2.depth ≤ n := by
  induction members with
  | nil => simp [membersDepth]
  | cons m rest ih =>
    obtain ⟨key, item⟩ := m
    simp [membersDepth, ih]

theorem depth_array_le {n : Nat} {items : List Json} :
    (Json.array items).depth ≤ n + 1 ↔ ∀ item ∈ items, item.depth ≤ n := by
  rw [depth, Nat.add_le_add_iff_right, itemsDepth_le]

theorem depth_object_le {n : Nat} {members : List (String × Json)} :
    (Json.object members).depth ≤ n + 1 ↔ ∀ m ∈ members, m.2.depth ≤ n := by
  rw [depth, Nat.add_le_add_iff_right, membersDepth_le]

theorem depth_le_of_mem_children {n : Nat} {v item : Json} (hitem : item ∈ v.children)
    (h : v.depth ≤ n + 1) : item.depth ≤ n := by
  cases v with
  | null | boolean | number | text => exact absurd hitem List.not_mem_nil
  | array items => exact depth_array_le.mp h item hitem
  | object members =>
    obtain ⟨m, hm, rfl⟩ := List.mem_map.mp hitem
    exact depth_object_le.mp h m hm

/-! ### Sorted values -/

/-- Whether every object in a value lists its members in ascending order of their keys. -/
def Sorted (v : Json) : Prop :=
  ∀ members, .object members ∈ v.parts → (members.map Prod.fst).Pairwise (· < ·)

@[simp] theorem sorted_null : Json.null.Sorted := by
  simp [Sorted, parts]

@[simp] theorem sorted_boolean {value : Bool} : (Json.boolean value).Sorted := by
  simp [Sorted, parts]

@[simp] theorem sorted_number {value : Number} : (Json.number value).Sorted := by
  simp [Sorted, parts]

@[simp] theorem sorted_text {value : String} : (Json.text value).Sorted := by
  simp [Sorted, parts]

theorem sorted_array {items : List Json} :
    (Json.array items).Sorted ↔ ∀ item ∈ items, item.Sorted := by
  simp only [Sorted, parts, List.mem_cons, reduceCtorEq, false_or, mem_itemParts]
  constructor
  · intro h item hitem members hmembers
    exact h members ⟨item, hitem, hmembers⟩
  · rintro h members ⟨item, hitem, hmembers⟩
    exact h item hitem members hmembers

theorem sorted_object {members : List (String × Json)} :
    (Json.object members).Sorted ↔
      (members.map Prod.fst).Pairwise (· < ·) ∧ ∀ m ∈ members, m.2.Sorted := by
  simp only [Sorted, parts, List.mem_cons, Json.object.injEq, mem_memberParts]
  constructor
  · intro h
    exact ⟨h members (Or.inl rfl), fun m hm inner hinner ↦ h inner (Or.inr ⟨m, hm, hinner⟩)⟩
  · rintro ⟨hkeys, h⟩ inner (rfl | ⟨m, hm, hinner⟩)
    · exact hkeys
    · exact h m hm inner hinner

section InsertMember

variable {key : String} {value : Json} {members : List (String × Json)}

theorem mem_of_mem_insertMember {m : String × Json} (h : m ∈ insertMember key value members) :
    m = (key, value) ∨ m ∈ members := by
  induction members with
  | nil => exact Or.inl (List.mem_singleton.mp h)
  | cons head rest ih =>
    unfold insertMember at h
    split_ifs at h
    · exact List.mem_cons.mp h
    · exact (List.mem_cons.mp h).imp_right (List.mem_cons_of_mem _)
    · rcases List.mem_cons.mp h with rfl | hrest
      · exact Or.inr List.mem_cons_self
      · exact (ih hrest).imp_right (List.mem_cons_of_mem _)

/-- Inserting a member keeps the keys in ascending order. -/
theorem insertMember_pairwise (h : (members.map Prod.fst).Pairwise (· < ·)) :
    ((insertMember key value members).map Prod.fst).Pairwise (· < ·) := by
  induction members with
  | nil => exact List.pairwise_singleton _ _
  | cons head rest ih =>
    obtain ⟨k, v⟩ := head
    obtain ⟨hhead, hrest⟩ := List.pairwise_cons.mp h
    unfold insertMember
    split_ifs with hlt heq
    · refine List.pairwise_cons.mpr ⟨fun l hl ↦ ?_, h⟩
      rcases List.mem_cons.mp hl with rfl | hl
      · exact hlt
      · exact hlt.trans (hhead l hl)
    · subst heq
      exact h
    · refine List.pairwise_cons.mpr ⟨fun l hl ↦ ?_, ih hrest⟩
      obtain ⟨m, hm, rfl⟩ := List.mem_map.mp hl
      rcases mem_of_mem_insertMember hm with rfl | hm
      · exact lt_of_le_of_ne (not_lt.mp hlt) (Ne.symm heq)
      · exact hhead m.1 (List.mem_map_of_mem hm)

/-- A member whose key is the greatest goes to the end. -/
theorem insertMember_last (h : ∀ m ∈ members, m.1 < key) :
    insertMember key value members = members ++ [(key, value)] := by
  induction members with
  | nil => rfl
  | cons head rest ih =>
    obtain ⟨k, v⟩ := head
    have hk : k < key := h (k, v) List.mem_cons_self
    rw [insertMember, if_neg hk.asymm, if_neg hk.ne',
      ih fun m hm ↦ h m (List.mem_cons_of_mem _ hm), List.cons_append]

/-- Members with different keys may be inserted in any order. -/
theorem insertMember_comm {other : String} (hne : key ≠ other) (v w : Json)
    (members : List (String × Json)) :
    insertMember key v (insertMember other w members) =
      insertMember other w (insertMember key v members) := by
  induction members with
  | nil => grind [insertMember]
  | cons head rest ih => grind [insertMember]

end InsertMember

/-! ### Canonical form -/

theorem canonicalItems_eq (items : List Json) : canonicalItems items = items.map canonical := by
  induction items with
  | nil => rfl
  | cons item rest ih => rw [canonicalItems, ih, List.map_cons]

theorem canonicalMembers_pairwise {members sorted : List (String × Json)}
    (h : (sorted.map Prod.fst).Pairwise (· < ·)) :
    ((canonicalMembers members sorted).map Prod.fst).Pairwise (· < ·) := by
  induction members generalizing sorted with
  | nil => exact h
  | cons m rest ih => exact ih (insertMember_pairwise h)

theorem mem_of_mem_canonicalMembers {members sorted : List (String × Json)} {m : String × Json}
    (h : m ∈ canonicalMembers members sorted) :
    m ∈ sorted ∨ ∃ n ∈ members, m = (n.1, n.2.canonical) := by
  induction members generalizing sorted with
  | nil => exact Or.inl h
  | cons n rest ih =>
    rcases ih h with hsorted | ⟨l, hl, heq⟩
    · rcases mem_of_mem_insertMember hsorted with rfl | hsorted
      · exact Or.inr ⟨n, List.mem_cons_self, rfl⟩
      · exact Or.inl hsorted
    · exact Or.inr ⟨l, List.mem_cons_of_mem _ hl, heq⟩

/-- Members that come in ascending order are taken over as they come. -/
theorem canonicalMembers_of_pairwise {members sorted : List (String × Json)}
    (hvalues : ∀ m ∈ members, m.2.canonical = m.2)
    (hkeys : ((sorted ++ members).map Prod.fst).Pairwise (· < ·)) :
    canonicalMembers members sorted = sorted ++ members := by
  induction members generalizing sorted with
  | nil => rw [canonicalMembers, List.append_nil]
  | cons m rest ih =>
    obtain ⟨key, value⟩ := m
    have hvalue : value.canonical = value := hvalues (key, value) List.mem_cons_self
    have hlast : ∀ n ∈ sorted, n.1 < key := by
      intro n hn
      rw [List.map_append, List.pairwise_append] at hkeys
      exact hkeys.2.2 n.1 (List.mem_map_of_mem hn) key (List.mem_map_of_mem List.mem_cons_self)
    rw [canonicalMembers, hvalue, insertMember_last hlast,
      ih (fun n hn ↦ hvalues n (List.mem_cons_of_mem _ hn)) (by simpa using hkeys),
      List.append_assoc, List.singleton_append]

theorem canonicalMembers_append (members others sorted : List (String × Json)) :
    canonicalMembers (members ++ others) sorted =
      canonicalMembers others (canonicalMembers members sorted) := by
  induction members generalizing sorted with
  | nil => rfl
  | cons m rest ih => exact ih _

/-- The order in which members with different keys come makes no difference. -/
theorem canonicalMembers_perm {members others : List (String × Json)} (h : members.Perm others)
    (hkeys : (members.map Prod.fst).Nodup) (sorted : List (String × Json)) :
    canonicalMembers members sorted = canonicalMembers others sorted := by
  induction h generalizing sorted with
  | nil => rfl
  | cons m _ ih => exact ih (List.nodup_cons.mp hkeys).2 _
  | swap m n rest =>
    have hne : m.1 ≠ n.1 := fun heq ↦
      (List.nodup_cons.mp hkeys).1 (List.mem_cons.mpr (Or.inl heq.symm))
    exact congrArg (canonicalMembers rest) (insertMember_comm hne _ _ sorted)
  | trans hfirst _ ih ih' =>
    exact (ih hkeys sorted).trans (ih' ((hfirst.map _).nodup_iff.mp hkeys) sorted)

theorem sorted_canonical (v : Json) : v.canonical.Sorted := by
  induction v using induction with
  | null | boolean | number | text => simp [canonical]
  | array items ih =>
    rw [canonical, canonicalItems_eq, sorted_array]
    intro item hitem
    obtain ⟨original, horiginal, rfl⟩ := List.mem_map.mp hitem
    exact ih original horiginal
  | object members ih =>
    rw [canonical, sorted_object]
    refine ⟨canonicalMembers_pairwise List.Pairwise.nil, fun m hm ↦ ?_⟩
    rcases mem_of_mem_canonicalMembers hm with hnil | ⟨n, hn, rfl⟩
    · exact absurd hnil List.not_mem_nil
    · exact ih n hn

theorem canonical_of_sorted {v : Json} (h : v.Sorted) : v.canonical = v := by
  induction v using induction with
  | null | boolean | number | text => rfl
  | array items ih =>
    rw [canonical, canonicalItems_eq,
      List.map_congr_left fun item hitem ↦ ih item hitem (sorted_array.mp h item hitem),
      List.map_id']
  | object members ih =>
    obtain ⟨hkeys, hvalues⟩ := sorted_object.mp h
    have hmembers : canonicalMembers members [] = [] ++ members :=
      canonicalMembers_of_pairwise (fun m hm ↦ ih m hm (hvalues m hm)) hkeys
    rw [canonical, hmembers, List.nil_append]

/-- The canonical form nests no deeper than the value. -/
theorem depth_canonical_le {v : Json} {n : Nat} (h : v.depth ≤ n) : v.canonical.depth ≤ n := by
  induction v using induction generalizing n with
  | null | boolean | number | text => exact h
  | array items ih =>
    obtain ⟨n, rfl⟩ : ∃ m, n = m + 1 := ⟨n - 1, by rw [depth] at h; omega⟩
    rw [depth_array_le] at h
    rw [canonical, canonicalItems_eq, depth_array_le]
    intro item hitem
    obtain ⟨original, horiginal, rfl⟩ := List.mem_map.mp hitem
    exact ih original horiginal (h original horiginal)
  | object members ih =>
    obtain ⟨n, rfl⟩ : ∃ m, n = m + 1 := ⟨n - 1, by rw [depth] at h; omega⟩
    rw [depth_object_le] at h
    rw [canonical, depth_object_le]
    intro m hm
    rcases mem_of_mem_canonicalMembers hm with hnil | ⟨l, hl, rfl⟩
    · exact absurd hnil List.not_mem_nil
    · exact ih l hl (h l hl)

end DiagramMigrations.Json
