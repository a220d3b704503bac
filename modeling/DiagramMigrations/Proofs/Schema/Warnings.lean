import DiagramMigrations.Proofs.Schema.Rules
import Mathlib.Data.List.Nodup

/-!
What a schema is like that is not warned about. Every warning of a rule is one of the validation, so
that a rule without a warning of some kind vouches for what that kind is about: the columns at the
ends of associations are declared, enumerations come to different classes, a default is a literal of
its enumeration, and tables come to different identifiers.
-/

set_option autoImplicit false
set_option relaxedAutoImplicit false

namespace DiagramMigrations

/-- Whether a report has no warning of a kind. -/
def Report.IsSilentOn (r : Report) (code : WarningCode) : Prop :=
  ∀ w ∈ r.warnings, w.code ≠ code

instance (r : Report) (code : WarningCode) : Decidable (r.IsSilentOn code) :=
  List.decidableBAll _ _

variable {s : Schema} {a : Association} {t : Table} {c : Column} {w : ValidationWarning}

namespace Schema

theorem warnings_validateBy (s : Schema) (rules : List Rule) :
    (s.validateBy rules).warnings = rules.flatMap fun rule ↦ (rule.report s).warnings :=
  Report.findings_foldl Report.warnings (fun _ _ ↦ rfl) .empty rules

/-- The warnings of a validation are those of the rules, one rule after the other. -/
theorem warnings_validate (s : Schema) :
    s.validate.warnings = Rule.all.flatMap fun rule ↦ (rule.report s).warnings :=
  s.warnings_validateBy Rule.all

theorem mem_warnings_of_rule (rule : Rule) (h : w ∈ (rule.report s).warnings) :
    w ∈ s.validate.warnings := by
  have hrule : rule ∈ Rule.all := by
    cases rule <;> decide
  rw [warnings_validate]
  exact List.mem_flatMap.mpr ⟨rule, hrule, h⟩

end Schema

/-! ### Associations -/

namespace Rule

theorem endWarning?_eq_some {table column : String} :
    endWarning? s a table column = some w ↔
      ∃ t, s.table? table = some t ∧ t.column? column = none ∧ missingColumn a t column = w := by
  rw [endWarning?]
  cases s.table? table with
  | none => simp
  | some t => cases hcolumn : t.column? column <;> simp [hcolumn]

theorem mem_associationsReport : w ∈ (associationsReport s).warnings ↔ ∃ a ∈ s.associations,
    endWarning? s a a.referencingTable a.referencingColumn = some w ∨
      endWarning? s a a.referencedTable a.referencedColumn = some w := by
  simp [associationsReport, Report.ofWarnings]

end Rule

namespace Schema

/-- Without a warning that a column is missing, both ends of an association name a column that is
declared, each by its table. -/
theorem columns_declared (h : s.validate.IsSilentOn .missingForeignKeyColumn)
    (ha : a ∈ s.associations) :
    (∀ t, s.table? a.referencingTable = some t → ∃ c, t.column? a.referencingColumn = some c) ∧
      ∀ t, s.table? a.referencedTable = some t → ∃ c, t.column? a.referencedColumn = some c := by
  have hends : ∀ t table column, s.table? table = some t →
      (∀ w, Rule.endWarning? s a table column = some w → w ∈ (Rule.associationsReport s).warnings) →
      ∃ c, t.column? column = some c := by
    intro t table column ht hreported
    by_contra hmissing
    have hnone : t.column? column = none :=
      Option.eq_none_iff_forall_ne_some.mpr fun c hc ↦ hmissing ⟨c, hc⟩
    have hwarning : Rule.endWarning? s a table column = some (Rule.missingColumn a t column) :=
      Rule.endWarning?_eq_some.mpr ⟨t, ht, hnone, rfl⟩
    exact h _ (mem_warnings_of_rule .associations (hreported _ hwarning)) rfl
  constructor
  · intro t ht
    exact hends t _ _ ht fun w hw ↦ Rule.mem_associationsReport.mpr ⟨a, ha, Or.inl hw⟩
  · intro t ht
    exact hends t _ _ ht fun w hw ↦ Rule.mem_associationsReport.mpr ⟨a, ha, Or.inr hw⟩

end Schema

/-! ### Enumerations -/

namespace Rule

section WithPrevious

variable {α κ : Type} {key : α → κ}

/-- What holds between an element and those before it holds between the elements of the list. -/
theorem pairwise_of_withPrevious {R : α → α → Prop} {xs : List α}
    (h : ∀ entry ∈ withPrevious [] xs, ∀ x ∈ entry.1, R x entry.2) : xs.Pairwise R := by
  have hgeneral : ∀ rest before : List α, before.Pairwise R →
      (∀ entry ∈ withPrevious before rest, ∀ x ∈ entry.1, R x entry.2) →
      (before ++ rest).Pairwise R := by
    intro rest
    induction rest with
    | nil =>
      intro before hbefore _
      rwa [List.append_nil]
    | cons y rest ih =>
      intro before hbefore hall
      have hy : ∀ x ∈ before, R x y := hall (before, y) List.mem_cons_self
      have hnext : (before ++ [y]).Pairwise R := by
        refine List.pairwise_append.mpr ⟨hbefore, List.pairwise_singleton R y, fun x hx z hz ↦ ?_⟩
        rw [List.mem_singleton.mp hz]
        exact hy x hx
      have hrest := ih (before ++ [y]) hnext fun entry hentry ↦
        hall entry (List.mem_cons_of_mem _ hentry)
      rwa [List.append_assoc, List.singleton_append] at hrest
  exact hgeneral xs [] List.Pairwise.nil h

/-- If no key stands before its element, the keys are distinct. -/
theorem keys_nodup_of_withPrevious {xs : List α}
    (h : ∀ entry ∈ withPrevious [] xs, key entry.2 ∉ entry.1.map key) : (xs.map key).Nodup := by
  refine List.pairwise_map.mpr (pairwise_of_withPrevious fun entry hentry x hx heq ↦ ?_)
  exact h entry hentry (heq ▸ List.mem_map_of_mem hx)

end WithPrevious

/-- A default is warned about if it is no literal of the first enumeration of the name. -/
theorem defaultWarning?_eq_some : defaultWarning? s t c = some w ↔
    ∃ name value e, c.type = .enumeration name ∧ c.defaultValue = some (.literal value) ∧
      s.enumeration? name = some e ∧ value ∉ e.literalNames ∧
      unknownDefault t c name value = w := by
  rw [defaultWarning?]
  cases htype : c.type with
  | primitive kind size => simp
  | enumeration name =>
    rcases hvalue : c.defaultValue with - | - | value
    · simp
    · simp
    · dsimp only
      cases hfound : s.enumeration? name with
      | none => simp [hfound]
      | some e => by_cases hliteral : value ∈ e.literalNames <;> simp [hfound, hliteral]

theorem mem_enumerationsReport : w ∈ (enumerationsReport s).warnings ↔
    (∃ entry ∈ withPrevious [] s.enumerations, w ∈ enumerationWarnings entry.1 entry.2) ∨
      ∃ t ∈ s.tables, ∃ c ∈ t.columns, defaultWarning? s t c = some w := by
  simp [enumerationsReport, Report.ofWarnings]

end Rule

namespace Schema

theorem enumeration?_eq_some {name : String} {e : Enumeration}
    (h : s.enumeration? name = some e) : e ∈ s.enumerations ∧ e.name = name := by
  have hname : e.name = name := by simpa using List.find?_some h
  exact ⟨List.mem_of_find?_eq_some h, hname⟩

theorem exists_enumeration {name : String} (h : name ∈ s.enumerations.map Enumeration.name) :
    ∃ e, s.enumeration? name = some e := by
  obtain ⟨e, he, rfl⟩ := List.mem_map.mp h
  exact Option.isSome_iff_exists.mp (List.find?_isSome.mpr ⟨e, he, by simp⟩)

/-- Without a warning about a shared class name, the enumerations have distinct class names. -/
theorem classNames_nodup (h : s.validate.IsSilentOn .duplicateEnumerationName) :
    (s.enumerations.map fun e ↦ Naming.className e.name).Nodup := by
  apply Rule.keys_nodup_of_withPrevious
  intro entry hentry hbefore
  have hwarning : Rule.duplicateEnumerationName entry.2 ∈
      Rule.enumerationWarnings entry.1 entry.2 := by
    rw [Rule.enumerationWarnings, if_pos hbefore]
    exact List.mem_append_right _ List.mem_cons_self
  exact h _ (mem_warnings_of_rule .enumerations
    (Rule.mem_enumerationsReport.mpr (Or.inl ⟨entry, hentry, hwarning⟩))) rfl

/-- Without a warning about an unknown default, the default of an enumeration column is a literal of
the first enumeration of that name. -/
theorem default_mem_literalNames (h : s.validate.IsSilentOn .unknownEnumDefault)
    (ht : t ∈ s.tables) (hc : c ∈ t.columns) {name value : String}
    (htype : c.type = .enumeration name) (hvalue : c.defaultValue = some (.literal value))
    {e : Enumeration} (he : s.enumeration? name = some e) : value ∈ e.literalNames := by
  by_contra hunknown
  have hwarning : Rule.defaultWarning? s t c = some (Rule.unknownDefault t c name value) :=
    Rule.defaultWarning?_eq_some.mpr ⟨name, value, e, htype, hvalue, he, hunknown, rfl⟩
  exact h _ (mem_warnings_of_rule .enumerations
    (Rule.mem_enumerationsReport.mpr (Or.inr ⟨t, ht, c, hc, hwarning⟩))) rfl

end Schema

/-! ### Columns -/

namespace Rule

/-- The warning about a column after the columns before it. -/
def columnWarnings (t : Table) (entry : List Column × Column) : List ValidationWarning :=
  if entry.2.isUnnamed then [emptyColumnName t]
  else if entry.2.name ∈ entry.1.map Column.name then [duplicateColumnName t entry.2] else []

theorem warnings_addColumn (t : Table) (r : Report) (entry : List Column × Column) :
    (addColumn t r entry).warnings = r.warnings ++ columnWarnings t entry := by
  obtain ⟨before, c⟩ := entry
  by_cases hname : c.isUnnamed
  · simp [addColumn, columnWarnings, hname, Report.addWarning]
  · by_cases htag : c.hasForeignKeyTag <;> by_cases hbefore : c.name ∈ before.map Column.name <;>
      simp [addColumn, columnWarnings, hname, htag, hbefore, Report.addWarning, Report.addError]

theorem warnings_addColumns (t : Table) (r : Report) : (addColumns r t).warnings =
    r.warnings ++ (withPrevious [] t.columns).flatMap (columnWarnings t) :=
  Report.findings_foldl Report.warnings (warnings_addColumn t) r _

/-- The warnings about columns are those that each table gives rise to on its own. -/
theorem warnings_columnsReport (s : Schema) : (columnsReport s).warnings =
    s.tables.flatMap fun t ↦ (addColumns .empty t).warnings := by
  have hadd (r : Report) (t : Table) :
      (addColumns r t).warnings = r.warnings ++ (addColumns .empty t).warnings := by
    rw [warnings_addColumns, warnings_addColumns]
    rfl
  exact Report.findings_foldl Report.warnings hadd .empty s.tables

theorem mem_columnsReport : w ∈ (columnsReport s).warnings ↔
    ∃ t ∈ s.tables, ∃ entry ∈ withPrevious [] t.columns, w ∈ columnWarnings t entry := by
  rw [warnings_columnsReport]
  simp [warnings_addColumns, Report.empty]

end Rule

/-! ### Tables -/

theorem Rule.mem_tablesReport : w ∈ (tablesReport s).warnings ↔
    ∃ entry ∈ withPrevious [] s.tables, tableWarning? entry.1 entry.2 = some w := by
  rw [tablesReport]
  split_ifs with hempty
  · simp [hempty, withPrevious, Report.ofError, Report.addError, Report.empty]
  · simp [Report.ofWarnings]

/-! ### Kinds of warnings -/

/-- The warnings of a kind in a report. -/
def Report.warningsOf (r : Report) (code : WarningCode) : List ValidationWarning :=
  r.warnings.filter fun w ↦ w.code = code

theorem Report.warningsOf_eq_nil_iff {r : Report} {code : WarningCode} :
    r.warningsOf code = [] ↔ r.IsSilentOn code := by
  simp [warningsOf, IsSilentOn]

/-- The rule that gives warnings of a kind. -/
def WarningCode.rule : WarningCode → Rule
  | emptyTableName | duplicateTableName => .tables
  | emptyColumnName | duplicateColumnName => .columns
  | missingForeignKeyColumn => .associations
  | unknownEnumDefault | emptyEnumeration | duplicateEnumerationName => .enumerations

namespace Rule

theorem code_of_tableWarning? {before : List Table} (h : tableWarning? before t = some w) :
    w.code = .emptyTableName ∨ w.code = .duplicateTableName := by
  rw [tableWarning?] at h
  split_ifs at h
  · exact Or.inl (Option.some.inj h ▸ rfl)
  · obtain ⟨u, -, rfl⟩ := Option.map_eq_some_iff.mp h
    exact Or.inr rfl

theorem code_of_mem_columnWarnings {entry : List Column × Column}
    (h : w ∈ columnWarnings t entry) :
    w.code = .emptyColumnName ∨ w.code = .duplicateColumnName := by
  rw [columnWarnings] at h
  split_ifs at h
  · exact Or.inl (List.mem_singleton.mp h ▸ rfl)
  · exact Or.inr (List.mem_singleton.mp h ▸ rfl)
  · exact absurd h List.not_mem_nil

theorem code_of_endWarning? {table column : String} (h : endWarning? s a table column = some w) :
    w.code = .missingForeignKeyColumn := by
  obtain ⟨t, -, -, rfl⟩ := endWarning?_eq_some.mp h
  rfl

theorem code_of_mem_enumerationWarnings {before : List Enumeration} {e : Enumeration}
    (h : w ∈ enumerationWarnings before e) :
    w.code = .emptyEnumeration ∨ w.code = .duplicateEnumerationName := by
  rw [enumerationWarnings, List.mem_append] at h
  rcases h with h | h <;> split_ifs at h
  · exact Or.inl (List.mem_singleton.mp h ▸ rfl)
  · exact absurd h List.not_mem_nil
  · exact Or.inr (List.mem_singleton.mp h ▸ rfl)
  · exact absurd h List.not_mem_nil

theorem code_of_defaultWarning? (h : defaultWarning? s t c = some w) :
    w.code = .unknownEnumDefault := by
  obtain ⟨name, value, e, -, -, -, -, rfl⟩ := defaultWarning?_eq_some.mp h
  rfl

/-- A rule gives warnings of its own kinds only. -/
theorem rule_code_of_mem {rule : Rule} (h : w ∈ (rule.report s).warnings) :
    w.code.rule = rule := by
  cases rule with
  | tables =>
    obtain ⟨entry, -, hwarning⟩ := mem_tablesReport.mp h
    rcases code_of_tableWarning? hwarning with hcode | hcode <;> rw [hcode] <;> rfl
  | columns =>
    obtain ⟨t, -, entry, -, hwarning⟩ := mem_columnsReport.mp h
    rcases code_of_mem_columnWarnings hwarning with hcode | hcode <;> rw [hcode] <;> rfl
  | associations =>
    obtain ⟨a, -, hwarning⟩ := mem_associationsReport.mp h
    rw [hwarning.elim code_of_endWarning? code_of_endWarning?]
    rfl
  | enumerations =>
    rcases mem_enumerationsReport.mp h with ⟨entry, -, hwarning⟩ | ⟨t, -, c, -, hwarning⟩
    · rcases code_of_mem_enumerationWarnings hwarning with hcode | hcode <;> rw [hcode] <;> rfl
    · rw [code_of_defaultWarning? hwarning]
      rfl

end Rule

/-- The warnings of a kind in a validation are those of the rule that gives them. -/
theorem Schema.warningsOf_validate (s : Schema) (code : WarningCode) :
    s.validate.warningsOf code = (code.rule.report s).warningsOf code := by
  have hother (rule : Rule) (hrule : rule ≠ code.rule) : (rule.report s).warningsOf code = [] := by
    rw [Report.warningsOf_eq_nil_iff]
    rintro w hw rfl
    exact hrule (Rule.rule_code_of_mem hw).symm
  have hall : s.validate.warningsOf code =
      Rule.all.flatMap fun rule ↦ (rule.report s).warningsOf code := by
    rw [Report.warningsOf, warnings_validate, List.filter_flatMap]
    rfl
  rw [hall]
  cases hrule : code.rule <;> rw [hrule] at hother <;> simp [Rule.all, hother]

/-- The warnings about defaults are one for each column that the rule warns about, in order. -/
theorem Schema.unknownDefaults_validate (s : Schema) : s.validate.warningsOf .unknownEnumDefault =
    s.tables.flatMap fun t ↦ t.columns.filterMap (Rule.defaultWarning? s t) := by
  have hnames : ((Rule.withPrevious [] s.enumerations).flatMap fun entry ↦
      Rule.enumerationWarnings entry.1 entry.2).filter
        (fun w ↦ w.code = .unknownEnumDefault) = [] := by
    refine List.filter_eq_nil_iff.mpr fun w hw ↦ ?_
    obtain ⟨entry, -, hwarning⟩ := List.mem_flatMap.mp hw
    rcases Rule.code_of_mem_enumerationWarnings hwarning with hcode | hcode <;> simp [hcode]
  have hdefaults : (s.tables.flatMap fun t ↦ t.columns.filterMap (Rule.defaultWarning? s t)).filter
      (fun w ↦ w.code = .unknownEnumDefault) =
        s.tables.flatMap fun t ↦ t.columns.filterMap (Rule.defaultWarning? s t) := by
    refine List.filter_eq_self.mpr fun w hw ↦ ?_
    obtain ⟨t, -, hwarning⟩ := List.mem_flatMap.mp hw
    obtain ⟨c, -, hdefault⟩ := List.mem_filterMap.mp hwarning
    exact decide_eq_true (Rule.code_of_defaultWarning? hdefault)
  rw [warningsOf_validate]
  change (Rule.enumerationsReport s).warnings.filter _ = _
  rw [Rule.enumerationsReport, Report.ofWarnings, List.filter_append]
  exact (congrArg₂ _ hnames hdefaults).trans (List.nil_append _)

/-! ### Names of tables -/

/-- Without a warning about a shared or an unusable name, the tables have distinct identifiers. -/
theorem Schema.identifiers_nodup (hempty : s.validate.IsSilentOn .emptyTableName)
    (hshared : s.validate.IsSilentOn .duplicateTableName) :
    (s.tables.map fun t ↦ Naming.identifier t.name).Nodup := by
  apply Rule.keys_nodup_of_withPrevious
  intro entry hentry hbefore
  obtain ⟨before, t⟩ := entry
  have hreported : ∀ w, Rule.tableWarning? before t = some w → w ∈ s.validate.warnings :=
    fun w hw ↦ mem_warnings_of_rule .tables (Rule.mem_tablesReport.mpr ⟨_, hentry, hw⟩)
  by_cases hname : Naming.identifier t.name = ""
  · exact hempty _ (hreported _ (if_pos hname)) rfl
  · have hfound : (before.reverse.find? fun u ↦
        Naming.identifier u.name = Naming.identifier t.name).isSome := by
      obtain ⟨u, hu, hsame⟩ := List.mem_map.mp hbefore
      exact List.find?_isSome.mpr ⟨u, List.mem_reverse.mpr hu, decide_eq_true hsame⟩
    obtain ⟨u, hu⟩ := Option.isSome_iff_exists.mp hfound
    have hwarning : Rule.tableWarning? before t = some (Rule.duplicateTableName u.name t) := by
      rw [Rule.tableWarning?, if_neg hname, hu, Option.map_some]
    exact hshared _ (hreported _ hwarning) rfl

end DiagramMigrations
