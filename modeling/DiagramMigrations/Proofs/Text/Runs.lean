import DiagramMigrations.Text.Blank
import Mathlib.Tactic.Common

/-!
The runs of characters of a kind. A run is never empty and has characters of the kind only; runs
that are joined by a character of another kind are the runs of the text they make up.
-/

set_option autoImplicit false
set_option relaxedAutoImplicit false

namespace DiagramMigrations.Text

variable {keep : Char → Bool} {sep : Char} {cs run : List Char} {runs : List (List Char)}

theorem flatten_splitOnP (cut : Char → Bool) (cs : List Char) :
    (cs.splitOnP cut).flatten = cs.filter fun c ↦ !cut c := by
  induction cs with
  | nil => rfl
  | cons d rest ih =>
    rw [List.splitOnP_cons_eq_if_modifyHead]
    cases hsplit : rest.splitOnP cut with
    | nil => exact absurd hsplit (List.splitOnP_ne_nil _ _)
    | cons first others =>
      rw [hsplit, List.flatten_cons] at ih
      by_cases hd : cut d <;> simp [hd, ← ih]

/-- The runs together have all characters of the kind, in order. -/
theorem flatten_runsOf (keep : Char → Bool) (cs : List Char) :
    (runsOf keep cs).flatten = cs.filter keep := by
  rw [runsOf, List.flatten_filter_not_isEmpty, flatten_splitOnP]
  simp

theorem mem_runsOf (h : run ∈ runsOf keep cs) :
    run ≠ [] ∧ ∀ c ∈ run, keep c = true ∧ c ∈ cs := by
  refine ⟨by simpa using (List.mem_filter.mp h).2, fun c hc ↦ ?_⟩
  have hmem : c ∈ cs.filter keep := flatten_runsOf keep cs ▸ List.mem_flatten_of_mem h hc
  exact (List.mem_filter.mp hmem).symm

/-- A character of another kind parts the runs before it from those behind it. -/
theorem runsOf_append_cons (hsep : keep sep = false) (front rest : List Char) :
    runsOf keep (front ++ sep :: rest) = runsOf keep front ++ runsOf keep rest := by
  rw [runsOf, List.splitOnP_append_cons _ _ (by rw [hsep, Bool.not_false]), List.filter_append]
  rfl

theorem splitOnP_intercalate (hsep : keep sep = false) (hne : runs ≠ [])
    (hruns : ∀ run ∈ runs, ∀ c ∈ run, keep c = true) :
    ([sep].intercalate runs).splitOnP (fun c ↦ !keep c) = runs := by
  have hcut : (!keep sep) = true := by rw [hsep, Bool.not_false]
  induction runs with
  | nil => exact absurd rfl hne
  | cons run rest ih =>
    have hrun : ∀ c ∈ run, (!keep c) = false := fun c hc ↦ by
      rw [hruns run List.mem_cons_self c hc, Bool.not_true]
    cases rest with
    | nil => rw [List.intercalate_singleton, List.splitOnP_eq_singleton hrun]
    | cons next rest =>
      rw [List.intercalate_cons_cons, List.append_assoc, List.singleton_append,
        List.splitOnP_append_cons_of_forall_mem hrun _ hcut,
        ih (by simp) fun run hmem ↦ hruns run (List.mem_cons_of_mem _ hmem)]

/-- Runs are the runs of the text that joins them by another character. -/
theorem runsOf_intercalate (hsep : keep sep = false)
    (hruns : ∀ run ∈ runs, run ≠ [] ∧ ∀ c ∈ run, keep c = true) :
    runsOf keep ([sep].intercalate runs) = runs := by
  by_cases hempty : runs = []
  · subst hempty
    rw [runsOf, List.intercalate_nil, List.splitOnP_nil]
    rfl
  · have hkept : (runs.filter fun run ↦ !run.isEmpty) = runs :=
      List.filter_eq_self.mpr fun run hrun ↦ by simpa using (hruns run hrun).1
    rw [runsOf, splitOnP_intercalate hsep hempty fun run hrun ↦ (hruns run hrun).2, hkept]

end DiagramMigrations.Text
