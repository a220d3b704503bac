import Mathlib.Data.List.Forall2

/-!
Lists that are taken over element by element.
-/

set_option autoImplicit false
set_option relaxedAutoImplicit false

namespace DiagramMigrations

variable {α β : Type}

theorem forall₂_filterMap {R : α → β → Prop} {f : α → Option β} {xs : List α}
    (h : ∀ x ∈ xs, ∃ y, f x = some y ∧ R x y) : List.Forall₂ R xs (xs.filterMap f) := by
  induction xs with
  | nil => exact List.Forall₂.nil
  | cons x rest ih =>
    obtain ⟨y, hy, hR⟩ := h x List.mem_cons_self
    rw [List.filterMap_cons_some hy]
    exact List.Forall₂.cons hR (ih fun z hz ↦ h z (List.mem_cons_of_mem _ hz))

/-- What a partial function makes of a list comes from the elements it is defined for. -/
theorem forall₂_filterMap_of_isSome {R : α → β → Prop} {f : α → Option β} {p : α → Prop}
    [DecidablePred p] (hp : ∀ x, (f x).isSome ↔ p x) (hR : ∀ x y, f x = some y → R x y)
    (xs : List α) : List.Forall₂ R (xs.filter fun x ↦ p x) (xs.filterMap f) := by
  have hfilter : (xs.filter fun x ↦ p x).filterMap f = xs.filterMap f := by
    rw [List.filterMap_filter]
    refine congrArg (fun g ↦ xs.filterMap g) (funext fun x ↦ ?_)
    by_cases hx : p x
    · simp [hx]
    · have hnone : f x = none := Option.not_isSome_iff_eq_none.mp (mt (hp x).mp hx)
      simp [hx, hnone]
  rw [← hfilter]
  refine forall₂_filterMap fun x hx ↦ ?_
  have hpx : p x := of_decide_eq_true (List.mem_filter.mp hx).2
  obtain ⟨y, hy⟩ := Option.isSome_iff_exists.mp ((hp x).mpr hpx)
  exact ⟨y, hy, hR x y hy⟩

/-- Lists that agree element by element in a key have the same keys. -/
theorem map_eq_of_forall₂ {κ : Type} {f : α → κ} {g : β → κ} {xs : List α} {ys : List β}
    (h : List.Forall₂ (fun x y ↦ f x = g y) xs ys) : xs.map f = ys.map g := by
  induction h with
  | nil => rfl
  | cons hxy _ ih => rw [List.map_cons, List.map_cons, hxy, ih]

theorem map_eq_self_iff {f : α → α} {xs : List α} : xs.map f = xs ↔ ∀ x ∈ xs, f x = x := by
  simpa using List.map_inj_left (f := f) (g := id) (l := xs)

theorem forall_mem_getD {p : α → Prop} {slot : Option (List α)}
    (h : ∀ xs ∈ slot, ∀ x ∈ xs, p x) : ∀ x ∈ slot.getD [], p x := by
  cases slot with
  | none => exact fun x hx ↦ absurd hx List.not_mem_nil
  | some xs => exact h xs rfl

theorem mem_of_mem_intercalate {sep : List α} {xss : List (List α)} {x : α}
    (h : x ∈ sep.intercalate xss) : x ∈ sep ∨ ∃ xs ∈ xss, x ∈ xs := by
  induction xss with
  | nil => exact absurd h List.not_mem_nil
  | cons xs rest ih =>
    cases rest with
    | nil =>
      rw [List.intercalate_singleton] at h
      exact Or.inr ⟨xs, List.mem_cons_self, h⟩
    | cons ys rest =>
      rw [List.intercalate_cons_cons, List.append_assoc, List.mem_append, List.mem_append] at h
      rcases h with hfirst | hsep | hlater
      · exact Or.inr ⟨xs, List.mem_cons_self, hfirst⟩
      · exact Or.inl hsep
      · rcases ih hlater with hsep | ⟨zs, hzs, hx⟩
        · exact Or.inl hsep
        · exact Or.inr ⟨zs, List.mem_cons_of_mem _ hzs, hx⟩

theorem length_le_length_flatMap {f : α → List β} {xs : List α} (h : ∀ x ∈ xs, f x ≠ []) :
    xs.length ≤ (xs.flatMap f).length := by
  induction xs with
  | nil => exact Nat.le_refl 0
  | cons x rest ih =>
    have hfirst := List.length_pos_iff.mpr (h x List.mem_cons_self)
    have hrest := ih fun y hy ↦ h y (List.mem_cons_of_mem _ hy)
    rw [List.flatMap_cons, List.length_append, List.length_cons]
    omega

/-- If every element is replaced by one at least and the list stays, every element does. -/
theorem flatMap_eq_self_iff {f : α → List α} {xs : List α} (hne : ∀ x ∈ xs, f x ≠ []) :
    xs.flatMap f = xs ↔ ∀ x ∈ xs, f x = [x] := by
  induction xs with
  | nil => simp
  | cons x rest ih =>
    obtain ⟨y, ys, hx⟩ := List.exists_cons_of_ne_nil (hne x List.mem_cons_self)
    have hrest : ∀ z ∈ rest, f z ≠ [] := fun z hz ↦ hne z (List.mem_cons_of_mem _ hz)
    rw [List.flatMap_cons, List.forall_mem_cons, ← ih hrest, hx, List.cons_append, List.cons.injEq,
      List.cons.injEq, and_assoc]
    refine and_congr_right fun _ ↦ ⟨fun hlist ↦ ?_, fun ⟨hys, hlist⟩ ↦ by rw [hys, hlist]; rfl⟩
    have hlength := congrArg List.length hlist
    rw [List.length_append] at hlength
    have hys : ys = [] := by
      rw [← List.length_eq_zero_iff]
      have := length_le_length_flatMap hrest
      omega
    exact ⟨hys, by rwa [hys, List.nil_append] at hlist⟩

/-- The element at a position stands between those before it and those behind it. -/
theorem exists_eq_append_cons {xs : List α} {n : Nat} {x : α} (h : xs[n]? = some x) :
    ∃ front rest, xs = front ++ x :: rest ∧ front.length = n := by
  obtain ⟨hlt, rfl⟩ := List.getElem?_eq_some_iff.mp h
  refine ⟨xs.take n, xs.drop (n + 1), ?_, ?_⟩
  · rw [List.getElem_cons_drop, List.take_append_drop]
  · rw [List.length_take, Nat.min_eq_left (Nat.le_of_lt hlt)]

/-- An element of a list that is not too long is paired with what stands at its position. -/
theorem zip_append_cons {names : List α} {front rest : List β} {x : β}
    (hlength : (front ++ x :: rest).length ≤ names.length) :
    ∃ name pairs others, names[front.length]? = some name ∧ pairs.length = front.length ∧
      ∀ y, names.zip (front ++ y :: rest) = pairs ++ (name, y) :: others := by
  have hlt : front.length < names.length := by
    rw [List.length_append, List.length_cons] at hlength
    omega
  obtain ⟨first, others, hnames, hfirst⟩ := exists_eq_append_cons (List.getElem?_eq_getElem hlt)
  refine ⟨_, first.zip front, others.zip rest, List.getElem?_eq_getElem hlt, ?_, fun y ↦ ?_⟩
  · rw [List.length_zip, hfirst, Nat.min_self]
  · rw [← List.zip_cons_cons, ← List.zip_append hfirst, ← hnames]

/-- Where two lists correspond, an element of the first has one in the second. -/
theorem exists_forall₂_append_cons {R : α → β → Prop} {front rest : List α} {x : α} {ys : List β}
    (h : List.Forall₂ R (front ++ x :: rest) ys) :
    ∃ before y behind, ys = before ++ y :: behind ∧ List.Forall₂ R front before ∧ R x y ∧
      List.Forall₂ R rest behind := by
  induction front generalizing ys with
  | nil =>
    obtain ⟨y, behind, hy, hbehind, rfl⟩ := List.forall₂_cons_left_iff.mp h
    exact ⟨[], y, behind, rfl, .nil, hy, hbehind⟩
  | cons first front ih =>
    obtain ⟨z, ys, hz, hys, rfl⟩ := List.forall₂_cons_left_iff.mp h
    obtain ⟨before, y, behind, rfl, hbefore, hy, hbehind⟩ := ih hys
    exact ⟨z :: before, y, behind, rfl, .cons hz hbefore, hy, hbehind⟩

/-- Where a list is cut in two ways, an element that is not in the first part of one stands in the
second. -/
theorem exists_append_of_notMem {front back before behind : List α} {x : α}
    (h : front ++ back = before ++ x :: behind) (hx : x ∉ front) :
    ∃ more, before = front ++ more ∧ back = more ++ x :: behind := by
  rcases List.append_eq_append_iff.mp h with ⟨more, hbefore, hback⟩ | ⟨more, hfront, hbehind⟩
  · exact ⟨more, hbefore, hback⟩
  · rcases more with - | ⟨y, more⟩
    · exact ⟨[], by simpa using hfront.symm, by simpa using hbehind.symm⟩
    · obtain ⟨rfl, -⟩ := List.cons.inj hbehind
      exact absurd (by simp [hfront]) hx

/-- Of elements with different keys, one alone has a key of theirs. -/
theorem filter_key_eq {κ : Type} [DecidableEq κ] (key : α → κ) {xs : List α} {x : α}
    (hkeys : (xs.map key).Nodup) (hx : x ∈ xs) : (xs.filter fun y ↦ key y = key x) = [x] := by
  induction xs with
  | nil => exact absurd hx List.not_mem_nil
  | cons y ys ih =>
    obtain ⟨hy, hys⟩ := List.nodup_cons.mp hkeys
    rcases List.mem_cons.mp hx with rfl | hx
    · have hrest : (ys.filter fun y ↦ key y = key x) = [] :=
        List.filter_eq_nil_iff.mpr fun z hz ↦ by
          simpa using ne_of_mem_of_not_mem (List.mem_map_of_mem hz) hy
      rw [List.filter_cons_of_pos (by simp), hrest]
    · have hne : key y ≠ key x := (ne_of_mem_of_not_mem (List.mem_map_of_mem hx) hy).symm
      rw [List.filter_cons_of_neg (by simpa using hne), ih hys hx]

/-- Of elements with different keys, a key finds the one that has it. -/
theorem find?_key_eq_some {κ : Type} [DecidableEq κ] {key : α → κ} {xs : List α}
    (hkeys : (xs.map key).Nodup) {k : κ} {x : α} :
    (xs.find? fun y ↦ key y = k) = some x ↔ x ∈ xs ∧ key x = k := by
  constructor
  · intro h
    have hkey : key x = k := by simpa using List.find?_some h
    exact ⟨List.mem_of_find?_eq_some h, hkey⟩
  · rintro ⟨hx, rfl⟩
    rw [← List.head?_filter, filter_key_eq key hkeys hx]
    rfl

/-! ### Association lists -/

section Lookup

variable {entries : List (String × β)} {k key : String} {v : β}

theorem mem_of_lookup (h : entries.lookup k = some v) : (k, v) ∈ entries := by
  obtain ⟨before, after, rfl, -⟩ := List.lookup_eq_some_iff.mp h
  exact List.mem_append_right _ List.mem_cons_self

theorem lookup_eq_some_of_unique (hmem : (k, v) ∈ entries)
    (hunique : ∀ w, (k, w) ∈ entries → w = v) : entries.lookup k = some v := by
  have hsome : (entries.lookup k).isSome :=
    List.lookup_isSome_iff.mpr ⟨(k, v), hmem, beq_self_eq_true k⟩
  obtain ⟨w, hw⟩ := Option.isSome_iff_exists.mp hsome
  rw [hw, hunique w (mem_of_lookup hw)]

theorem lookup_cons_of_ne (h : k ≠ key) : ((key, v) :: entries).lookup k = entries.lookup k := by
  rw [List.lookup_cons, beq_false_of_ne h]

end Lookup

end DiagramMigrations
