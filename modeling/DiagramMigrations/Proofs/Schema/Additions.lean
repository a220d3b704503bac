import DiagramMigrations.Proofs.Schema.Report
import Mathlib.Data.List.Basic

/-!
Reports from whatever is added to them: errors, warnings, and reports that were built in the same way
themselves. However deep these are nested, a report holds all findings in the order in which they were
added, and both its validity and the failure that it stands for are told from them.
-/

set_option autoImplicit false
set_option relaxedAutoImplicit false

namespace DiagramMigrations

/-- What a validation finds. -/
inductive Finding
  | error (e : ValidationError)
  | warning (w : ValidationWarning)

/-- The finding as an error. -/
def Finding.error? : Finding → Option ValidationError
  | error e => some e
  | warning _ => none

/-- The finding as a warning. -/
def Finding.warning? : Finding → Option ValidationWarning
  | error _ => none
  | warning w => some w

/-- What is added to a report: a finding, or another report, to which additions were made before. -/
inductive Addition
  | finding (f : Finding)
  | merge (additions : List Addition)

namespace Addition

mutual

/-- What was found in an addition, in order. -/
def findings : Addition → List Finding
  | finding f => [f]
  | merge additions => findingsOf additions

/-- What was found in all of them, in order. -/
def findingsOf : List Addition → List Finding
  | [] => []
  | addition :: rest => findings addition ++ findingsOf rest

end

end Addition

namespace Report

/-- Adds a finding. -/
def add (r : Report) : Finding → Report
  | .error e => r.addError e
  | .warning w => r.addWarning w

mutual

/-- Makes an addition. The additions to another report are made to an empty one. -/
def extend (r : Report) : Addition → Report
  | .finding f => r.add f
  | .merge additions => r.merge (extendAll empty additions)

/-- Makes additions one after the other. -/
def extendAll (r : Report) : List Addition → Report
  | [] => r
  | addition :: rest => extendAll (extend r addition) rest

end

/-- Whether a report says of what was found all there is to say: it holds the errors and warnings in
order, is valid without an error only, and stands for the failure that they lead to. -/
structure Tells (r : Report) (found : List Finding) : Prop where
  errors : r.errors = found.filterMap Finding.error?
  warnings : r.warnings = found.filterMap Finding.warning?
  valid_iff : r.valid = true ↔ r.errors = []
  ok_iff : r.result = .ok () ↔ r.errors = []
  noTables_iff : r.result = .error .noTables ↔ ∃ e ∈ r.errors, e.code = .noTables
  validation : r.errors ≠ [] → (∀ e ∈ r.errors, e.code ≠ .noTables) →
    r.result = .error (.validation ("; ".intercalate (r.errors.map ValidationError.display)))

variable {r other : Report}

/-! ### Findings -/

theorem errors_add (r : Report) (f : Finding) :
    (r.add f).errors = r.errors ++ f.error?.toList := by
  cases f with
  | error e => rfl
  | warning w => exact (List.append_nil _).symm

theorem warnings_add (r : Report) (f : Finding) :
    (r.add f).warnings = r.warnings ++ f.warning?.toList := by
  cases f with
  | error e => exact (List.append_nil _).symm
  | warning w => rfl

theorem Consistent.add (h : r.Consistent) (f : Finding) : (r.add f).Consistent := by
  cases f with
  | error e => exact Consistent.addError e
  | warning w => exact h.addWarning w

theorem merge_empty (r : Report) : r.merge empty = r := by
  rw [merge, empty, Bool.and_true, List.append_nil, List.append_nil]

/-- A finding of the other report may as well be added after that report. -/
theorem merge_add (r other : Report) (f : Finding) :
    (r.merge other).add f = r.merge (other.add f) := by
  cases f with
  | error e => simp [add, addError, merge, List.append_assoc]
  | warning w => simp [add, addWarning, merge, List.append_assoc]

/-! ### Additions -/

mutual

theorem extend_eq_foldl (r : Report) :
    ∀ addition : Addition, r.extend addition = addition.findings.foldl add r
  | .finding f => rfl
  | .merge additions => by
    -- The other report starts empty, and merging goes through the fold that it comes to.
    rw [extend, Addition.findings, extendAll_eq_foldl empty additions,
      ← List.foldl_hom r.merge (merge_add r), merge_empty]

/-- Whatever was nested, the report is the one that its findings give one after the other. -/
theorem extendAll_eq_foldl (r : Report) :
    ∀ additions : List Addition, r.extendAll additions = (Addition.findingsOf additions).foldl add r
  | [] => rfl
  | addition :: rest => by
    rw [extendAll, Addition.findingsOf, List.foldl_append, ← extend_eq_foldl r addition]
    exact extendAll_eq_foldl _ rest

end

/-! ### Failures -/

theorem Consistent.result_ne_ok (h : r.Consistent) (hsome : r.errors ≠ []) : r.result ≠ .ok () := by
  by_cases hcode : ∃ e ∈ r.errors, e.code = .noTables
  · rw [result_of_noTables hcode]
    simp
  · have hother : ∀ e ∈ r.errors, e.code ≠ .noTables := fun e he heq ↦ hcode ⟨e, he, heq⟩
    rw [h.result_of_errors hother hsome]
    simp

theorem Consistent.result_ne_noTables (h : r.Consistent)
    (hother : ∀ e ∈ r.errors, e.code ≠ .noTables) : r.result ≠ .error .noTables := by
  by_cases hsome : r.errors = []
  · rw [h.result_of_no_errors hsome]
    simp
  · rw [h.result_of_errors hother hsome]
    simp

theorem Consistent.tells {found : List Finding} (h : r.Consistent)
    (herrors : r.errors = found.filterMap Finding.error?)
    (hwarnings : r.warnings = found.filterMap Finding.warning?) : r.Tells found where
  errors := herrors
  warnings := hwarnings
  valid_iff := h.valid_iff
  ok_iff := ⟨fun hok ↦ by_contra fun hsome ↦ h.result_ne_ok hsome hok, h.result_of_no_errors⟩
  noTables_iff := by
    refine ⟨fun hresult ↦ by_contra fun hcode ↦ ?_, result_of_noTables⟩
    exact h.result_ne_noTables (fun e he heq ↦ hcode ⟨e, he, heq⟩) hresult
  validation hsome hother := h.result_of_errors hother hsome

/-- Whatever is added to the empty report, it holds the findings in their order, is valid only as long
as there is no error among them, and stands for the failure that the errors lead to. -/
theorem extendAll_tells (additions : List Addition) :
    (empty.extendAll additions).Tells (Addition.findingsOf additions) := by
  have hconsistent : (empty.extendAll additions).Consistent := by
    rw [extendAll_eq_foldl]
    exact consistent_empty.foldl (fun _ f h ↦ h.add f) _
  refine hconsistent.tells ?_ ?_
  · rw [extendAll_eq_foldl, findings_foldl errors errors_add, List.filterMap_eq_flatMap_toList]
    rfl
  · rw [extendAll_eq_foldl, findings_foldl warnings warnings_add, List.filterMap_eq_flatMap_toList]
    rfl

end Report

end DiagramMigrations
