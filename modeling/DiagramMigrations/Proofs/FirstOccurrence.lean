import DiagramMigrations.Schema.Extraction
import Mathlib.Data.List.Induction
import Mathlib.Data.List.Nodup

/-!
Lists from which later occurrences of a key are dropped. What is kept has distinct keys, and no key
is lost.
-/

set_option autoImplicit false
set_option relaxedAutoImplicit false

namespace DiagramMigrations

variable {α κ : Type} [DecidableEq κ] {key : α → κ}

/-- Adds an element unless its key is there already. -/
def keepNew (key : α → κ) (kept : List α) (x : α) : List α :=
  if key x ∈ kept.map key then kept else kept ++ [x]

theorem keepNew_keys_nodup {kept : List α} (h : (kept.map key).Nodup) (x : α) :
    ((keepNew key kept x).map key).Nodup := by
  unfold keepNew
  split_ifs with hx
  · exact h
  · rw [List.map_append, List.map_singleton, List.nodup_append]
    refine ⟨h, List.nodup_singleton _, fun k hk l hl heq ↦ hx ?_⟩
    rw [← List.mem_singleton.mp hl, ← heq]
    exact hk

theorem mem_keepNew_keys {kept : List α} {x : α} {k : κ} :
    k ∈ (keepNew key kept x).map key ↔ k ∈ kept.map key ∨ k = key x := by
  unfold keepNew
  split_ifs with hx
  · constructor
    · exact Or.inl
    · rintro (hk | rfl)
      · exact hk
      · exact hx
  · rw [List.map_append, List.mem_append, List.map_singleton, List.mem_singleton]

theorem foldl_keepNew_keys_nodup (xs : List α) {kept : List α} (h : (kept.map key).Nodup) :
    ((xs.foldl (keepNew key) kept).map key).Nodup := by
  induction xs generalizing kept with
  | nil => exact h
  | cons x xs ih => exact ih (keepNew_keys_nodup h x)

theorem mem_foldl_keepNew_keys {xs kept : List α} {k : κ} :
    k ∈ (xs.foldl (keepNew key) kept).map key ↔ k ∈ kept.map key ∨ k ∈ xs.map key := by
  induction xs generalizing kept with
  | nil => simp
  | cons x xs ih =>
    rw [List.foldl_cons, ih, mem_keepNew_keys, List.map_cons, List.mem_cons, or_assoc]

/-- Elements that are their own keys. -/
theorem keepNew_id : keepNew id = fun (kept : List κ) x ↦
    if x ∈ kept then kept else kept ++ [x] := by
  funext kept x
  simp [keepNew]

theorem firstsBy_keys_nodup (label : α → String) (xs : List α) :
    ((firstsBy label xs).map label).Nodup :=
  foldl_keepNew_keys_nodup xs List.nodup_nil

/-- Where a function keeps the keys, the first occurrences of what it makes are made of the first
occurrences. -/
theorem firstsBy_map {label : α → String} {f : α → α} (hlabel : ∀ x, label (f x) = label x)
    (xs : List α) : firstsBy label (xs.map f) = (firstsBy label xs).map f := by
  have hfold (kept : List α) : (xs.map f).foldl (keepNew label) (kept.map f) =
      (xs.foldl (keepNew label) kept).map f := by
    induction xs generalizing kept with
    | nil => rfl
    | cons x xs ih =>
      have hstep : keepNew label (kept.map f) (f x) = (keepNew label kept x).map f := by
        have hkeys : (kept.map f).map label = kept.map label := by
          rw [List.map_map]
          exact List.map_congr_left fun x _ ↦ hlabel x
        rw [keepNew, keepNew, hlabel, hkeys]
        split_ifs
        · rfl
        · rw [List.map_append, List.map_singleton]
      rw [List.map_cons, List.foldl_cons, List.foldl_cons, hstep, ih]
  exact hfold []

/-! ### Positions -/

section Positions

variable (counts : κ → Prop) [DecidablePred counts]

/-- The elements that stand at the first place of their key, and those whose key does not count. -/
def firstOccurrences (key : α → κ) (xs : List α) : List α :=
  (xs.zipIdx.filter fun p ↦ counts (key p.1) → key p.1 ∉ (xs.take p.2).map key).map Prod.fst

/-- Adds an element unless its key counts and is there already. -/
def keepFirst (key : α → κ) (kept : List α) (x : α) : List α :=
  if counts (key x) ∧ key x ∈ kept.map key then kept else kept ++ [x]

theorem firstOccurrences_concat (xs : List α) (x : α) :
    firstOccurrences counts key (xs ++ [x]) = firstOccurrences counts key xs ++
      if counts (key x) ∧ key x ∈ xs.map key then [] else [x] := by
  have hearlier : ∀ p ∈ xs.zipIdx, (xs ++ [x]).take p.2 = xs.take p.2 := by
    intro p hp
    have hlt : p.2 < xs.length := List.snd_lt_of_mem_zipIdx hp
    exact List.take_append_of_le_length (Nat.le_of_lt hlt)
  have hfilter : xs.zipIdx.filter (fun p ↦
        counts (key p.1) → key p.1 ∉ ((xs ++ [x]).take p.2).map key) =
      xs.zipIdx.filter fun p ↦ counts (key p.1) → key p.1 ∉ (xs.take p.2).map key := by
    refine List.filter_congr fun p hp ↦ ?_
    rw [hearlier p hp]
  have hlast : [(x, xs.length)].filter (fun p ↦
        counts (key p.1) → key p.1 ∉ ((xs ++ [x]).take p.2).map key) =
      if counts (key x) ∧ key x ∈ xs.map key then [] else [(x, xs.length)] := by
    rw [List.filter_singleton, List.take_left]
    split_ifs <;> simp_all
  rw [firstOccurrences, List.zipIdx_append, List.filter_append, hfilter, List.map_append,
    Nat.zero_add, List.zipIdx_singleton, hlast]
  split_ifs <;> rfl

theorem mem_firstOccurrences_keys {xs : List α} {k : κ} :
    k ∈ (firstOccurrences counts key xs).map key ↔ k ∈ xs.map key := by
  induction xs using List.reverseRecOn with
  | nil => rfl
  | append_singleton xs x ih =>
    rw [firstOccurrences_concat, List.map_append, List.mem_append, ih, List.map_append,
      List.mem_append]
    split_ifs with h
    · constructor
      · rintro (hold | hnew)
        · exact Or.inl hold
        · simp at hnew
      · rintro (hold | hnew)
        · exact Or.inl hold
        · have hkx : k = key x := by simpa using hnew
          exact Or.inl (hkx ▸ h.2)
    · rfl

/-- Keeping what is new, one after the other, keeps the first occurrences. -/
theorem foldl_keepFirst (xs : List α) :
    xs.foldl (keepFirst counts key) [] = firstOccurrences counts key xs := by
  induction xs using List.reverseRecOn with
  | nil => rfl
  | append_singleton xs x ih =>
    rw [List.foldl_append, ih, firstOccurrences_concat, List.foldl_cons, List.foldl_nil, keepFirst]
    simp only [mem_firstOccurrences_keys]
    split_ifs <;> simp

theorem firstOccurrences_keys_nodup (xs : List α) :
    (((firstOccurrences counts key xs).map key).filter counts).Nodup := by
  induction xs using List.reverseRecOn with
  | nil => exact List.nodup_nil
  | append_singleton xs x ih =>
    rw [firstOccurrences_concat, List.map_append, List.filter_append]
    split_ifs with h
    · simpa using ih
    · by_cases hx : counts (key x)
      · have hnew : key x ∉ (firstOccurrences counts key xs).map key := by
          rw [mem_firstOccurrences_keys counts]
          exact fun hold ↦ h ⟨hx, hold⟩
        rw [List.map_singleton, List.filter_singleton, decide_eq_true hx, cond_true]
        refine List.nodup_append.mpr ⟨ih, List.nodup_singleton _, fun k hk l hl heq ↦ hnew ?_⟩
        rw [← List.mem_singleton.mp hl, ← heq]
        exact (List.mem_filter.mp hk).1
      · simpa [hx] using ih

end Positions

theorem firstsBy_eq (label : α → String) (xs : List α) :
    firstsBy label xs = firstOccurrences (fun _ ↦ True) label xs := by
  rw [← foldl_keepFirst, firstsBy]
  congr 1
  funext kept x
  simp [keepFirst]

end DiagramMigrations
