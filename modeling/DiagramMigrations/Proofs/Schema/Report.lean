import DiagramMigrations.Schema.Report

/-!
Reports that agree with themselves. A report is built by adding findings and other reports to the
empty one, and all along it is valid exactly as long as it holds no error.
-/

set_option autoImplicit false
set_option relaxedAutoImplicit false

namespace DiagramMigrations.Report

/-- Whether what a report says of its validity agrees with its errors. -/
def Consistent (r : Report) : Prop :=
  r.valid = r.errors.isEmpty

variable {r other : Report}

theorem Consistent.valid_iff (h : r.Consistent) : r.valid = true ↔ r.errors = [] := by
  rw [h, List.isEmpty_iff]

theorem consistent_empty : empty.Consistent := rfl

theorem Consistent.addError (e : ValidationError) : (r.addError e).Consistent := by
  simp [Consistent, Report.addError]

theorem Consistent.addWarning (h : r.Consistent) (w : ValidationWarning) :
    (r.addWarning w).Consistent := h

theorem Consistent.merge (h : r.Consistent) (hother : other.Consistent) :
    (r.merge other).Consistent := by
  unfold Consistent at *
  rw [Report.merge, h, hother]
  cases r.errors <;> rfl

theorem consistent_ofWarnings (ws : List ValidationWarning) : (ofWarnings ws).Consistent := rfl

section Fold

variable {α : Type} {add : Report → α → Report}

theorem Consistent.foldl (hadd : ∀ r x, r.Consistent → (add r x).Consistent) (h : r.Consistent)
    (xs : List α) : (xs.foldl add r).Consistent := by
  induction xs generalizing r with
  | nil => exact h
  | cons x rest ih => exact ih (hadd r x h)

/-- What single steps add to the errors, or to the warnings, all of them add in their order. -/
theorem findings_foldl {β : Type} (findings : Report → List β) {found : α → List β}
    (hadd : ∀ r x, findings (add r x) = findings r ++ found x) (r : Report) (xs : List α) :
    findings (xs.foldl add r) = findings r ++ xs.flatMap found := by
  induction xs generalizing r with
  | nil => rw [List.foldl_nil, List.flatMap_nil, List.append_nil]
  | cons x rest ih => rw [List.foldl_cons, ih, hadd, List.flatMap_cons, List.append_assoc]

end Fold

/-! ### The failure that a report stands for -/

theorem result_of_noTables (h : ∃ e ∈ r.errors, e.code = .noTables) :
    r.result = .error .noTables := by
  obtain ⟨e, he, hcode⟩ := h
  rw [result, if_pos (List.any_eq_true.mpr ⟨e, he, decide_eq_true hcode⟩)]

theorem Consistent.result_of_errors (h : r.Consistent) (hcode : ∀ e ∈ r.errors, e.code ≠ .noTables)
    (herrors : r.errors ≠ []) :
    r.result = .error (.validation ("; ".intercalate (r.errors.map ValidationError.display))) := by
  have hnone : ¬ (r.errors.any fun e ↦ e.code = .noTables) = true := by
    intro hany
    obtain ⟨e, he, heq⟩ := List.any_eq_true.mp hany
    exact hcode e he (of_decide_eq_true heq)
  rw [result, if_neg hnone, if_neg (mt h.valid_iff.mp herrors)]

theorem Consistent.result_of_no_errors (h : r.Consistent) (herrors : r.errors = []) :
    r.result = .ok () := by
  rw [result, herrors, h.valid_iff.mpr herrors]
  rfl

end DiagramMigrations.Report
