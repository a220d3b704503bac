import Mathlib.Tactic.Common

/-!
Computations that may fail. One that succeeds has succeeded in all of its parts, and a run of steps
keeps what each of its steps keeps.
-/

set_option autoImplicit false
set_option relaxedAutoImplicit false

namespace DiagramMigrations

variable {ε α β : Type}

theorem bind_eq_ok {x : Except ε α} {f : α → Except ε β} {y : β} :
    x.bind f = .ok y ↔ ∃ a, x = .ok a ∧ f a = .ok y := by
  constructor
  · intro h
    cases x with
    | error e => cases h
    | ok a => exact ⟨a, rfl, h⟩
  · rintro ⟨a, rfl, h⟩
    exact h

theorem mapError_eq_ok {ε' : Type} {x : Except ε α} {f : ε → ε'} {y : α} :
    x.mapError f = .ok y ↔ x = .ok y := by
  cases x <;> simp [Except.mapError]

theorem map_eq_ok {f : α → β} {x : Except ε α} {y : β} :
    x.map f = .ok y ↔ ∃ a, x = .ok a ∧ f a = y := by
  cases x <;> simp [Except.map]

/-- A step that refuses under a condition goes on only if it does not hold. -/
theorem unless_throw_eq_ok {p : Prop} [Decidable p] {error : ε} {x : Except ε α} {y : α} :
    (if p then (throw error : Except ε Unit) >>= fun _ ↦ x else x) = .ok y ↔ ¬ p ∧ x = .ok y := by
  by_cases hp : p
  · rw [if_pos hp]
    exact iff_of_false (fun h ↦ by cases h) fun h ↦ h.1 hp
  · rw [if_neg hp]
    exact (and_iff_right hp).symm

/-- What holds at the start of a run, and is kept by its steps, holds at its end. -/
theorem foldlM_keeps_of_mem {step : β → α → Except ε β} {p : β → Prop} {xs : List α}
    (hstep : ∀ s, ∀ x ∈ xs, ∀ next, p s → step s x = .ok next → p next) {start last : β}
    (hstart : p start) (h : xs.foldlM step start = .ok last) : p last := by
  induction xs generalizing start with
  | nil => exact Except.ok.inj h ▸ hstart
  | cons x rest ih =>
    obtain ⟨next, hnext, hrest⟩ := bind_eq_ok.mp h
    exact ih (fun s y hy ↦ hstep s y (List.mem_cons_of_mem _ hy))
      (hstep start x List.mem_cons_self next hstart hnext) hrest

theorem foldlM_keeps {step : β → α → Except ε β} {p : β → Prop}
    (hstep : ∀ s x next, p s → step s x = .ok next → p next) {xs : List α} {start last : β}
    (hstart : p start) (h : xs.foldlM step start = .ok last) : p last :=
  foldlM_keeps_of_mem (fun s x _ ↦ hstep s x) hstart h

/-- The result at a position of a run is that of the element at the position. -/
theorem exists_getElem?_of_mapM {read : α → Except ε β} {xs : List α} {ys : List β} {n : Nat}
    {y : β} (h : xs.mapM read = .ok ys) (hy : ys[n]? = some y) :
    ∃ x, xs[n]? = some x ∧ read x = .ok y := by
  induction xs generalizing ys n with
  | nil =>
    obtain rfl : [] = ys := Except.ok.inj h
    cases hy
  | cons x xs ih =>
    rw [List.mapM_cons] at h
    obtain ⟨first, hfirst, h⟩ := bind_eq_ok.mp h
    obtain ⟨rest, hrest, h⟩ := bind_eq_ok.mp h
    obtain rfl : first :: rest = ys := Except.ok.inj h
    cases n with
    | zero =>
      obtain rfl := Option.some.inj hy
      exact ⟨x, rfl, hfirst⟩
    | succ n => exact ih hrest hy

/-- Every result of a run is the result of one of its elements. -/
theorem exists_mem_of_mapM {read : α → Except ε β} {xs : List α} {ys : List β}
    (h : xs.mapM read = .ok ys) : ∀ y ∈ ys, ∃ x ∈ xs, read x = .ok y := by
  intro y hy
  obtain ⟨n, hn⟩ := List.mem_iff_getElem?.mp hy
  obtain ⟨x, hx, hread⟩ := exists_getElem?_of_mapM h hn
  exact ⟨x, List.mem_of_getElem? hx, hread⟩

theorem length_of_mapM {read : α → Except ε β} {xs : List α} {ys : List β}
    (h : xs.mapM read = .ok ys) : ys.length = xs.length := by
  induction xs generalizing ys with
  | nil => exact Except.ok.inj h ▸ rfl
  | cons x xs ih =>
    rw [List.mapM_cons] at h
    obtain ⟨y, -, h⟩ := bind_eq_ok.mp h
    obtain ⟨rest, hrest, h⟩ := bind_eq_ok.mp h
    obtain rfl : y :: rest = ys := Except.ok.inj h
    rw [List.length_cons, ih hrest, List.length_cons]

theorem mapM_append_cons_eq_ok {read : α → Except ε β} {front rest : List α} {x : α}
    {ys : List β} : (front ++ x :: rest).mapM read = .ok ys ↔ ∃ before y behind,
      front.mapM read = .ok before ∧ read x = .ok y ∧ rest.mapM read = .ok behind ∧
        ys = before ++ y :: behind := by
  rw [List.mapM_append, List.mapM_cons]
  constructor
  · intro h
    obtain ⟨before, hbefore, h⟩ := bind_eq_ok.mp h
    obtain ⟨others, hothers, h⟩ := bind_eq_ok.mp h
    obtain ⟨y, hy, hothers⟩ := bind_eq_ok.mp hothers
    obtain ⟨behind, hbehind, hothers⟩ := bind_eq_ok.mp hothers
    obtain rfl := Except.ok.inj hothers
    exact ⟨before, y, behind, hbefore, hy, hbehind, (Except.ok.inj h).symm⟩
  · rintro ⟨before, y, behind, hbefore, hy, hbehind, rfl⟩
    exact bind_eq_ok.mpr ⟨before, hbefore, bind_eq_ok.mpr ⟨y :: behind,
      bind_eq_ok.mpr ⟨y, hy, bind_eq_ok.mpr ⟨behind, hbehind, rfl⟩⟩, rfl⟩⟩

theorem mapM_append_eq_ok {read : α → Except ε β} {front rest : List α} {ys : List β} :
    (front ++ rest).mapM read = .ok ys ↔ ∃ before behind,
      front.mapM read = .ok before ∧ rest.mapM read = .ok behind ∧ ys = before ++ behind := by
  rw [List.mapM_append]
  constructor
  · intro h
    obtain ⟨before, hbefore, h⟩ := bind_eq_ok.mp h
    obtain ⟨behind, hbehind, h⟩ := bind_eq_ok.mp h
    exact ⟨before, behind, hbefore, hbehind, (Except.ok.inj h).symm⟩
  · rintro ⟨before, behind, hbefore, hbehind, rfl⟩
    exact bind_eq_ok.mpr ⟨before, hbefore, bind_eq_ok.mpr ⟨behind, hbehind, rfl⟩⟩

/-- Two steps in a row that fail for one reason fail unless the conditions of both hold. -/
theorem bind_ite_bind_ite {γ : Type} {p q : Prop} [Decidable p] [Decidable q] {error : ε} {x : α}
    {y : β} {next : α → β → Except ε γ} :
    ((if p then .ok x else .error error) >>= fun a ↦
        (if q then .ok y else .error error) >>= fun b ↦ next a b) =
      if p ∧ q then next x y else .error error := by
  by_cases hp : p <;> by_cases hq : q <;> simp only [hp, hq, if_true, if_false, and_self,
    and_false, false_and] <;> rfl

section Written

variable {γ : Type} {write : α → γ} {read : γ → Except ε β} {f : α → β} {xs : List α}

/-- A run over written elements stops at the first that is refused, and otherwise gives what each
is read as. -/
theorem mapM_map_eq_ite {p : α → Prop} [DecidablePred p] {error : ε}
    (h : ∀ x ∈ xs, read (write x) = if p x then .ok (f x) else .error error) :
    (xs.map write).mapM read = if ∀ x ∈ xs, p x then .ok (xs.map f) else .error error := by
  induction xs with
  | nil => simp [pure, Except.pure]
  | cons x xs ih =>
    obtain ⟨hx, hxs⟩ := List.forall_mem_cons.mp h
    rw [List.map_cons, List.mapM_cons, hx, ih hxs, bind_ite_bind_ite]
    simp only [List.forall_mem_cons]
    rfl

theorem mapM_map_eq_ok (h : ∀ x ∈ xs, read (write x) = .ok (f x)) :
    (xs.map write).mapM read = .ok (xs.map f) := by
  induction xs with
  | nil => rfl
  | cons x xs ih =>
    obtain ⟨hx, hxs⟩ := List.forall_mem_cons.mp h
    rw [List.map_cons, List.mapM_cons, hx, ih hxs]
    rfl

end Written

end DiagramMigrations
