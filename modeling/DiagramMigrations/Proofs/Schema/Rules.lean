import DiagramMigrations.Proofs.Schema.Report
import DiagramMigrations.Schema.Rules

/-!
The errors of a validation. There is one if the schema has no tables, and one for each column that
has a name and declares a foreign key; nothing else is an error.
-/

set_option autoImplicit false
set_option relaxedAutoImplicit false

namespace DiagramMigrations

/-- Whether a column that has a name declares a foreign key. -/
def Column.isTagged (c : Column) : Bool :=
  !c.isUnnamed && c.hasForeignKeyTag

/-- Whether there is a table with such a column. -/
def Schema.HasTaggedColumn (s : Schema) : Prop :=
  ∃ t ∈ s.tables, ∃ c ∈ t.columns, c.isUnnamed = false ∧ c.hasForeignKeyTag = true

namespace Rule

/-- The errors about such columns of a table. -/
def tagErrors (t : Table) : List ValidationError :=
  (t.columns.filter Column.isTagged).map (foreignKeyTag t)

theorem map_snd_withPrevious {α : Type} (before xs : List α) :
    (withPrevious before xs).map Prod.snd = xs := by
  induction xs generalizing before with
  | nil => rfl
  | cons x rest ih => rw [withPrevious, List.map_cons, ih]

variable (t : Table) (r : Report) (s : Schema)

theorem errors_addColumn (entry : List Column × Column) : (addColumn t r entry).errors =
    r.errors ++ if entry.2.isTagged then [foreignKeyTag t entry.2] else [] := by
  obtain ⟨before, c⟩ := entry
  by_cases hname : c.isUnnamed
  · simp [addColumn, Column.isTagged, hname, Report.addWarning]
  · by_cases htag : c.hasForeignKeyTag <;> by_cases hbefore : c.name ∈ before.map Column.name <;>
      simp [addColumn, Column.isTagged, hname, htag, hbefore, Report.addWarning, Report.addError]

theorem addColumn_consistent (entry : List Column × Column) (h : r.Consistent) :
    (addColumn t r entry).Consistent := by
  obtain ⟨before, c⟩ := entry
  unfold addColumn
  dsimp only
  by_cases hname : c.isUnnamed
  · rw [if_pos hname]
    exact h.addWarning _
  · rw [if_neg hname]
    by_cases htag : c.hasForeignKeyTag
    · rw [if_pos htag]
      exact .addError _
    · rw [if_neg htag]
      split
      · exact h.addWarning _
      · exact h

theorem errors_addColumns : (addColumns r t).errors = r.errors ++ tagErrors t := by
  rw [addColumns, Report.findings_foldl Report.errors (errors_addColumn t), tagErrors]
  congr 1
  calc (withPrevious [] t.columns).flatMap
        (fun entry ↦ if entry.2.isTagged then [foreignKeyTag t entry.2] else [])
      = ((withPrevious [] t.columns).map Prod.snd).flatMap
          (fun c ↦ if c.isTagged then [foreignKeyTag t c] else []) := by rw [List.flatMap_map]
    _ = t.columns.flatMap (fun c ↦ if c.isTagged then [foreignKeyTag t c] else []) := by
        rw [map_snd_withPrevious]
    _ = (t.columns.filter Column.isTagged).map (foreignKeyTag t) := by
        induction t.columns with
        | nil => rfl
        | cons c rest ih => by_cases htag : c.isTagged <;> simp [htag, ih]

theorem errors_columnsReport : (columnsReport s).errors = s.tables.flatMap tagErrors :=
  Report.findings_foldl Report.errors (fun r t ↦ errors_addColumns t r) .empty s.tables

theorem columnsReport_consistent : (columnsReport s).Consistent :=
  .foldl (fun _ t h ↦ .foldl (fun r entry ↦ addColumn_consistent t r entry) h _)
    Report.consistent_empty _

theorem report_consistent (rule : Rule) : (rule.report s).Consistent := by
  cases rule with
  | tables =>
    unfold report tablesReport
    dsimp only
    split
    · exact .addError _
    · exact Report.consistent_ofWarnings _
  | columns => exact columnsReport_consistent s
  | associations => exact Report.consistent_ofWarnings _
  | enumerations => exact Report.consistent_ofWarnings _

end Rule

namespace Schema

variable (s : Schema)

theorem validateBy_consistent (rules : List Rule) : (s.validateBy rules).Consistent :=
  .foldl (fun _ rule h ↦ h.merge (rule.report_consistent s)) Report.consistent_empty _

theorem errors_validateBy (rules : List Rule) :
    (s.validateBy rules).errors = rules.flatMap fun rule ↦ (rule.report s).errors :=
  Report.findings_foldl Report.errors (fun _ _ ↦ rfl) .empty rules

/-- The errors of a validation by all rules. -/
theorem errors_validate : s.validate.errors =
    (if s.tables = [] then [Rule.noTables] else []) ++ s.tables.flatMap Rule.tagErrors := by
  rw [validate, errors_validateBy]
  by_cases htables : s.tables = []
  · simp [Rule.all, Rule.report, Rule.tablesReport, htables, Rule.errors_columnsReport,
      Rule.associationsReport, Rule.enumerationsReport, Report.ofError, Report.ofWarnings,
      Report.addError, Report.empty]
  · simp [Rule.all, Rule.report, Rule.tablesReport, htables, Rule.errors_columnsReport,
      Rule.associationsReport, Rule.enumerationsReport, Report.ofWarnings, Report.empty]

variable {s}

theorem code_of_mem_tagErrors {e : ValidationError} (h : e ∈ s.tables.flatMap Rule.tagErrors) :
    e.code ≠ .noTables := by
  obtain ⟨t, -, ht⟩ := List.mem_flatMap.mp h
  obtain ⟨c, -, rfl⟩ := List.mem_map.mp ht
  simp [Rule.foreignKeyTag]

theorem tagErrors_ne_nil : s.tables.flatMap Rule.tagErrors ≠ [] ↔ s.HasTaggedColumn := by
  simp [Rule.tagErrors, HasTaggedColumn, Column.isTagged]

/-- A validation finds no error if there are tables and no column declares a foreign key. -/
theorem errors_validate_eq_nil_iff :
    s.validate.errors = [] ↔ s.tables ≠ [] ∧ ¬ s.HasTaggedColumn := by
  rw [errors_validate, List.append_eq_nil_iff, ← tagErrors_ne_nil]
  by_cases htables : s.tables = [] <;> simp [htables]

/-- Without tables, a validation fails for that reason. -/
theorem validate_result_of_no_tables (htables : s.tables = []) :
    s.validate.result = .error .noTables := by
  refine Report.result_of_noTables ⟨Rule.noTables, ?_, rfl⟩
  rw [errors_validate, if_pos htables]
  exact List.mem_append_left _ (List.mem_singleton_self _)

/-- With tables, a validation fails if a column declares a foreign key. -/
theorem validate_result_of_tagged (htables : s.tables ≠ []) (htagged : s.HasTaggedColumn) :
    s.validate.result = .error (.validation ("; ".intercalate
      ((s.tables.flatMap Rule.tagErrors).map ValidationError.display))) := by
  have herrors : s.validate.errors = s.tables.flatMap Rule.tagErrors := by
    rw [errors_validate, if_neg htables, List.nil_append]
  have hresult := (s.validateBy_consistent Rule.all).result_of_errors
    (fun e he ↦ code_of_mem_tagErrors (herrors ▸ he)) (herrors ▸ tagErrors_ne_nil.mpr htagged)
  rw [← herrors]
  exact hresult

/-- With tables, a validation passes if no column declares a foreign key. -/
theorem validate_result_of_untagged (htables : s.tables ≠ []) (huntagged : ¬ s.HasTaggedColumn) :
    s.validate.result = .ok () := by
  have herrors : s.validate.errors = [] := errors_validate_eq_nil_iff.mpr ⟨htables, huntagged⟩
  exact (s.validateBy_consistent Rule.all).result_of_no_errors herrors

end Schema

end DiagramMigrations
