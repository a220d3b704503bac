import DiagramMigrations.Diagram.Element
import DiagramMigrations.Proofs.Except
import DiagramMigrations.Proofs.Lists
import Mathlib.Data.List.Forall2

/-!
Records, field by field. A draft fills each of its fields from the members with the keys of the
field and from no others, once at most. What is read from an object therefore depends on the members
that are known, and not on their order nor on what stands between them.
-/

set_option autoImplicit false
set_option relaxedAutoImplicit false

namespace DiagramMigrations.Diagram

/-- A field of a draft: the keys of the members that are for it, what their values are read as, and
where the draft keeps that. -/
structure Slot (Draft κ β ε : Type) where
  Value : Type
  takes : κ → Bool
  read : β → Except ε Value
  get : Draft → Option Value

namespace Slot

variable {Draft κ β ε : Type} {slot : Slot Draft κ β ε} {m : κ × β} {key : κ} {v w : β}
  {ms ns front rest : List (κ × β)} {x y before after : Option slot.Value}

/-- What a member does to a field: one that is for it fills it, and any other leaves it alone. -/
def Takes (slot : Slot Draft κ β ε) (m : κ × β) (before after : Option slot.Value) : Prop :=
  if slot.takes m.1 then before = none ∧ ∃ x, slot.read m.2 = .ok x ∧ after = some x
  else after = before

/-- The members that are for a field. -/
def members (slot : Slot Draft κ β ε) (ms : List (κ × β)) : List (κ × β) :=
  ms.filter fun m ↦ slot.takes m.1

/-- Whether a field holds what is read from the members that are for it, one at most. -/
def Holds (slot : Slot Draft κ β ε) (ms : List (κ × β)) (x : Option slot.Value) : Prop :=
  List.Forall₂ (fun m x ↦ slot.read m.2 = .ok x) (slot.members ms) x.toList

theorem takes_iff_of_not (hkey : slot.takes m.1 = false) :
    slot.Takes m before after ↔ after = before := by
  rw [Takes, hkey, if_neg Bool.false_ne_true]

theorem takes_iff (hkey : slot.takes m.1 = true) : slot.Takes m before after ↔
    before = none ∧ ∃ x, slot.read m.2 = .ok x ∧ after = some x := by
  rw [Takes, if_pos hkey]

theorem exists_takes_iff : (∃ after, slot.Takes m before after) ↔
    (slot.takes m.1 = true → before = none ∧ ∃ x, slot.read m.2 = .ok x) := by
  by_cases hkey : slot.takes m.1 = true <;> simp [Takes, hkey]

theorem members_append (ms ns : List (κ × β)) :
    slot.members (ms ++ ns) = slot.members ms ++ slot.members ns :=
  List.filter_append _ _

theorem members_cons (hm : slot.takes m.1 = true) (ms : List (κ × β)) :
    slot.members (m :: ms) = m :: slot.members ms :=
  List.filter_cons_of_pos hm

theorem members_cons_of_not (hm : slot.takes m.1 = false) (ms : List (κ × β)) :
    slot.members (m :: ms) = slot.members ms :=
  List.filter_cons_of_neg (by simp [hm])

theorem holds_none_iff : slot.Holds ms none ↔ slot.members ms = [] := by
  rw [Holds, Option.toList_none, List.forall₂_nil_right_iff]

theorem holds_some_iff {x : slot.Value} :
    slot.Holds ms (some x) ↔ ∃ m, slot.members ms = [m] ∧ slot.read m.2 = .ok x := by
  rw [Holds, Option.toList_some]
  constructor
  · intro h
    obtain ⟨m, rest, hread, hrest, hms⟩ := List.forall₂_cons_right_iff.mp h
    rw [List.forall₂_nil_right_iff.mp hrest] at hms
    exact ⟨m, hms, hread⟩
  · rintro ⟨m, hms, hread⟩
    rw [hms]
    exact .cons hread .nil

/-- A field holds one thing only. -/
theorem Holds.unique (hx : slot.Holds ms x) (hy : slot.Holds ms y) : x = y := by
  cases x with
  | none =>
    rw [holds_none_iff] at hx
    rw [Holds, hx, List.forall₂_nil_left_iff, Option.toList_eq_nil_iff] at hy
    exact hy.symm
  | some x =>
    obtain ⟨m, hm, hread⟩ := holds_some_iff.mp hx
    rw [Holds, hm] at hy
    obtain ⟨y', rest, hread', hrest, hy⟩ := List.forall₂_cons_left_iff.mp hy
    obtain rfl : x = y' := Except.ok.inj (hread.symm.trans hread')
    rw [List.forall₂_nil_left_iff.mp hrest, Option.toList_eq_singleton_iff] at hy
    exact hy.symm

theorem Holds.of_members_eq (h : slot.Holds ms x) (hmembers : slot.members ns = slot.members ms) :
    slot.Holds ns x := by
  rwa [Holds, hmembers]

/-- The order of the members does not matter. -/
theorem Holds.perm (h : slot.Holds ms x) (hperm : ms.Perm ns) : slot.Holds ns x := by
  refine h.of_members_eq ?_
  have hmembers : (slot.members ms).Perm (slot.members ns) := hperm.filter _
  cases x with
  | none =>
    rw [holds_none_iff.mp h] at hmembers ⊢
    exact hmembers.nil_eq.symm
  | some x =>
    obtain ⟨m, hm, -⟩ := holds_some_iff.mp h
    rw [hm] at hmembers ⊢
    exact List.perm_singleton.mp hmembers.symm

theorem members_insert (hkey : slot.takes key = false) :
    slot.members (front ++ (key, v) :: rest) = slot.members (front ++ rest) := by
  rw [members_append, members_cons_of_not (m := (key, v)) hkey, members_append]

/-- A member that is not for a field does not matter. -/
theorem Holds.insert (h : slot.Holds (front ++ rest) x) (hkey : slot.takes key = false) :
    slot.Holds (front ++ (key, v) :: rest) x :=
  h.of_members_eq (members_insert hkey)

/-- Where a member is changed that is not for a field, the field stays as it is. -/
theorem Holds.change_of_not (h : slot.Holds (front ++ (key, v) :: rest) x)
    (hkey : slot.takes key = false) : slot.Holds (front ++ (key, w) :: rest) x :=
  h.of_members_eq ((members_insert hkey).trans (members_insert hkey).symm)

/-- Where the member for a field is changed, the field holds what the new one is read as. -/
theorem Holds.change (h : slot.Holds (front ++ (key, v) :: rest) x) (hkey : slot.takes key = true) :
    (∃ y, slot.read v = .ok y ∧ x = some y) ∧
      ∀ z, slot.read w = .ok z → slot.Holds (front ++ (key, w) :: rest) (some z) := by
  have hmembers (u : β) : slot.members (front ++ (key, u) :: rest) =
      slot.members front ++ (key, u) :: slot.members rest := by
    rw [members_append, members_cons (m := (key, u)) hkey]
  cases x with
  | none =>
    rw [holds_none_iff, hmembers] at h
    exact absurd h (by simp)
  | some x =>
    obtain ⟨only, honly, hread⟩ := holds_some_iff.mp h
    rw [hmembers] at honly
    obtain ⟨hfront, rfl, hrest⟩ : slot.members front = [] ∧ (key, v) = only ∧
        slot.members rest = [] := by
      rcases List.append_eq_singleton_iff.mp honly with ⟨hfront, hone⟩ | ⟨-, hnil⟩
      · exact ⟨hfront, (List.cons.inj hone).1, (List.cons.inj hone).2⟩
      · cases hnil
    refine ⟨⟨x, hread, rfl⟩, fun z hz ↦ holds_some_iff.mpr ⟨(key, w), ?_, hz⟩⟩
    rw [hmembers, hfront, hrest, List.nil_append]

end Slot

/-! ### Drafts that are filled -/

/-- Whether the fields of a draft are filled one by one: a member that is taken in is acceptable and
does to each field what it does to it, and an acceptable one is taken in if no field stands in the
way. -/
structure Fills {Draft κ β ε : Type} (take : Draft → κ × β → Except ε Draft)
    (accepts : κ × β → Prop) (slots : List (Slot Draft κ β ε)) : Prop where
  takes : ∀ {d m next}, take d m = .ok next →
    accepts m ∧ ∀ slot ∈ slots, slot.Takes m (slot.get d) (slot.get next)
  exists_take : ∀ {d m}, accepts m →
    (∀ slot ∈ slots, ∃ after, slot.Takes m (slot.get d) after) → ∃ next, take d m = .ok next

namespace Fills

variable {Draft κ β ε : Type} {take : Draft → κ × β → Except ε Draft} {accepts : κ × β → Prop}
  {slots : List (Slot Draft κ β ε)} {ms : List (κ × β)} {start last : Draft}

/-- What members do to a field one after the other: they add to what it holds. -/
theorem exists_added (h : Fills take accepts slots) (hfold : ms.foldlM take start = .ok last) :
    (∀ m ∈ ms, accepts m) ∧ ∀ slot ∈ slots, ∃ added,
      List.Forall₂ (fun m x ↦ slot.read m.2 = .ok x) (slot.members ms) added ∧
        (slot.get last).toList = (slot.get start).toList ++ added := by
  induction ms generalizing start with
  | nil =>
    obtain rfl : start = last := Except.ok.inj hfold
    exact ⟨by simp, fun slot _ ↦ ⟨[], .nil, (List.append_nil _).symm⟩⟩
  | cons m rest ih =>
    obtain ⟨next, hnext, hrest⟩ := bind_eq_ok.mp hfold
    obtain ⟨haccepts, htakes⟩ := h.takes hnext
    obtain ⟨hothers, hadded⟩ := ih hrest
    refine ⟨List.forall_mem_cons.mpr ⟨haccepts, hothers⟩, fun slot hslot ↦ ?_⟩
    obtain ⟨added, hread, hlast⟩ := hadded slot hslot
    have htake := htakes slot hslot
    by_cases hm : slot.takes m.1 = true
    · rw [Slot.Takes, if_pos hm] at htake
      obtain ⟨hstart, x, hx, hsome⟩ := htake
      refine ⟨x :: added, ?_, ?_⟩
      · rw [Slot.members_cons hm]
        exact .cons hx hread
      · rw [hlast, hsome, hstart]
        rfl
    · rw [Bool.not_eq_true] at hm
      rw [Slot.takes_iff_of_not hm] at htake
      exact ⟨added, by rwa [Slot.members_cons_of_not hm], htake ▸ hlast⟩

/-- The fields of a draft that has been filled from nothing hold what is for them. -/
theorem holds (h : Fills take accepts slots) (hstart : ∀ slot ∈ slots, slot.get start = none)
    (hfold : ms.foldlM take start = .ok last) :
    (∀ m ∈ ms, accepts m) ∧ ∀ slot ∈ slots, slot.Holds ms (slot.get last) := by
  obtain ⟨haccepts, hadded⟩ := h.exists_added hfold
  refine ⟨haccepts, fun slot hslot ↦ ?_⟩
  obtain ⟨added, hread, hlast⟩ := hadded slot hslot
  rw [hstart slot hslot, Option.toList_none, List.nil_append] at hlast
  rwa [Slot.Holds, hlast]

/-- A draft can be filled further if there is something for each of its fields to hold. -/
theorem exists_foldlM_of_added (h : Fills take accepts slots) (haccepts : ∀ m ∈ ms, accepts m)
    (hslots : ∀ slot ∈ slots, ∃ x : Option slot.Value, ∃ added,
      List.Forall₂ (fun m x ↦ slot.read m.2 = .ok x) (slot.members ms) added ∧
        x.toList = (slot.get start).toList ++ added) :
    ∃ last, ms.foldlM take start = .ok last := by
  induction ms generalizing start with
  | nil => exact ⟨start, rfl⟩
  | cons m rest ih =>
    obtain ⟨hm, hrest⟩ := List.forall_mem_cons.mp haccepts
    -- what is left for a field to hold after the first member
    have hfirst : ∀ slot ∈ slots, ∃ after, slot.Takes m (slot.get start) after ∧
        ∃ x : Option slot.Value, ∃ added,
          List.Forall₂ (fun m x ↦ slot.read m.2 = .ok x) (slot.members rest) added ∧
            x.toList = after.toList ++ added := by
      intro slot hslot
      obtain ⟨x, added, hread, hx⟩ := hslots slot hslot
      by_cases hfor : slot.takes m.1 = true
      · rw [Slot.members_cons hfor] at hread
        obtain ⟨y, more, hy, hmore, rfl⟩ := List.forall₂_cons_left_iff.mp hread
        have hlength := congrArg List.length hx
        have hle : x.toList.length ≤ 1 := by cases x <;> simp
        rw [List.length_append, List.length_cons] at hlength
        have hnone : slot.get start = none := by
          rw [← Option.toList_eq_nil_iff, ← List.length_eq_zero_iff]
          omega
        refine ⟨some y, ?_, x, more, hmore, ?_⟩
        · rw [Slot.Takes, if_pos hfor]
          exact ⟨hnone, y, hy, rfl⟩
        · rw [hx, hnone]
          rfl
      · rw [Bool.not_eq_true] at hfor
        rw [Slot.members_cons_of_not hfor] at hread
        exact ⟨slot.get start, (Slot.takes_iff_of_not hfor).mpr rfl, x, added, hread, hx⟩
    obtain ⟨next, hnext⟩ := h.exists_take hm fun slot hslot ↦ (hfirst slot hslot).imp fun _ h ↦ h.1
    have hleft : ∀ slot ∈ slots, ∃ x : Option slot.Value, ∃ added,
        List.Forall₂ (fun m x ↦ slot.read m.2 = .ok x) (slot.members rest) added ∧
          x.toList = (slot.get next).toList ++ added := by
      intro slot hslot
      obtain ⟨after, htake, hleft⟩ := hfirst slot hslot
      have hsame : slot.get next = after := by
        have htook := (h.takes hnext).2 slot hslot
        rw [Slot.Takes] at htake htook
        split_ifs at htake htook
        · obtain ⟨-, y, hy, hnext⟩ := htook
          obtain ⟨-, z, hz, hafter⟩ := htake
          rw [hnext, hafter, Except.ok.inj (hy.symm.trans hz)]
        · exact htook.trans htake.symm
      exact hsame ▸ hleft
    obtain ⟨last, hlast⟩ := ih hrest hleft
    exact ⟨last, bind_eq_ok.mpr ⟨next, hnext, hlast⟩⟩

/-- A draft is filled from nothing if there is something for each of its fields to hold. -/
theorem exists_foldlM (h : Fills take accepts slots)
    (hstart : ∀ slot ∈ slots, slot.get start = none) (haccepts : ∀ m ∈ ms, accepts m)
    (hslots : ∀ slot ∈ slots, ∃ x, slot.Holds ms x) :
    ∃ last, ms.foldlM take start = .ok last := by
  refine h.exists_foldlM_of_added haccepts fun slot hslot ↦ ?_
  obtain ⟨x, hx⟩ := hslots slot hslot
  exact ⟨x, x.toList, hx, by rw [hstart slot hslot]; rfl⟩

end Fills

end DiagramMigrations.Diagram
