import DiagramMigrations.Project.Summary
import DiagramMigrations.Proofs.Project.Generation
import DiagramMigrations.Proofs.Schema.Rules
import DiagramMigrations.Proofs.Text.Bytes
import Mathlib

/-!
How a generation ends. The settings are looked at first, then the schema, then the order of its
tables; the first of them that is at fault decides, and if none is there is a project.
-/

set_option autoImplicit false
set_option relaxedAutoImplicit false

namespace DiagramMigrations

variable {settings : Settings} {now : Timestamp} {s : Schema} {c : Context} {p : Project}

namespace Project

theorem size_eq : p.size = (p.files.map OutputFile.size).sum := by
  rw [size, List.sum_eq_foldl, List.foldl_map]

/-- A project as it comes from a schema whose tables can be ordered: a migration for each table in
that order and, if enumeration classes are wanted and there are enumerations, behind the migrations
the base class and a class for each enumeration. -/
structure IsFrom (p : Project) (settings : Settings) (s : Schema) (c : Context)
    (order : List Nat) : Prop where
  name : p.name = s.name
  eachOnce : order.Perm (List.range s.tables.length)
  migrations : p.filesOf .migration = (order.filterMap fun i ↦ s.tables[i]?).zipIdx.map
    fun (t, position) ↦ c.migrationOutput t position
  base : p.filesOf .enumerationBase =
    if settings.generateEnums ∧ s.enumerations ≠ [] then [c.baseOutput] else []
  enumerations : p.filesOf .enumeration =
    if settings.generateEnums ∧ s.enumerations ≠ [] then s.enumerations.map c.enumOutput else []
  files : p.files =
    p.filesOf .migration ++ (p.filesOf .enumerationBase ++ p.filesOf .enumeration)
  warnings : p.warnings = s.validate.warnings.map ValidationWarning.display
  fileCount : (Summary.ofProject p).files = (p.filesOf .migration).length +
    (p.filesOf .enumeration).length + (p.filesOf .enumerationBase).length
  byteCount : (Summary.ofProject p).bytes =
    (p.files.map fun f ↦ (Text.bytes f.content).length).sum

/-- A project is determined by what it comes from. -/
theorem IsFrom.unique {other : Project} {order : List Nat}
    (hp : p.IsFrom settings s c order) (hother : other.IsFrom settings s c order) : p = other := by
  have hname := hp.name.trans hother.name.symm
  have hwarnings := hp.warnings.trans hother.warnings.symm
  have hfiles : p.files = other.files := by
    rw [hp.files, hother.files, hp.migrations, hother.migrations, hp.base, hother.base,
      hp.enumerations, hother.enumerations]
  cases p
  cases other
  cases hname
  cases hfiles
  cases hwarnings
  rfl

end Project

namespace Context

theorem hasEnumClasses_iff (h : ofSchema settings now s = .ok c) :
    c.hasEnumClasses = true ↔ settings.generateEnums = true ∧ s.enumerations ≠ [] := by
  rw [hasEnumClasses, settings_eq h, enumerations_eq h]
  simp

/-- The files of another kind are those for the enumerations. -/
theorem filesOf_project_of_ne {kind : FileKind} (hkind : FileKind.migration ≠ kind)
    (warnings : List ValidationWarning) :
    (c.project warnings).filesOf kind = c.enumOutputs.filter (·.kind = kind) := by
  rw [filesOf_project, List.filter_eq_nil_iff.mpr, List.nil_append]
  intro f hf
  simpa [kind_of_mem_migrationOutputs hf] using hkind

theorem bases_project (warnings : List ValidationWarning) :
    (c.project warnings).filesOf .enumerationBase =
      if c.hasEnumClasses then [c.baseOutput] else [] := by
  rw [filesOf_project_of_ne (by decide), enumOutputs]
  split_ifs
  · simp [baseOutput, enumOutput, List.filter_map, Function.comp_def]
  · rfl

theorem enumerations_project (warnings : List ValidationWarning) :
    (c.project warnings).filesOf .enumeration =
      if c.hasEnumClasses then c.enumerations.map c.enumOutput else [] := by
  rw [filesOf_project_of_ne (by decide), enumOutputs]
  split_ifs
  · simp [baseOutput, enumOutput, List.filter_map, Function.comp_def]
  · rfl

/-- The files of a project are its migrations, its base class and its enumerations. -/
theorem files_project (warnings : List ValidationWarning) :
    (c.project warnings).files = (c.project warnings).filesOf .migration ++
      ((c.project warnings).filesOf .enumerationBase ++
        (c.project warnings).filesOf .enumeration) := by
  rw [migrations_project, bases_project, enumerations_project, project, enumOutputs]
  split_ifs <;> rfl

/-- The project of a context comes from its schema. -/
theorem project_isFrom {order : List Nat}
    (horder : dependencyOrder s.tables s.associations = .ok order)
    (h : ofSchema settings now s = .ok c) :
    (c.project s.validate.warnings).IsFrom settings s c order := by
  refine ⟨name_eq h, dependencyOrder_perm horder, ?_, ?_, ?_, files_project _, rfl, ?_, ?_⟩
  · rw [migrations_project, migrationOutputs, tables_eq horder h]
  · rw [bases_project, if_congr (hasEnumClasses_iff h) rfl rfl]
  · rw [enumerations_project, if_congr (hasEnumClasses_iff h) rfl rfl, enumerations_eq h]
  · change (c.project s.validate.warnings).files.length = _
    rw [files_project, List.length_append, List.length_append]
    omega
  · exact Project.size_eq

end Context

/-! ### The ways a generation ends -/

namespace Project

/-- What a generation ends with. -/
inductive Ending (settings : Settings) (now : Timestamp) (s : Schema) :
    Except Failure Project → Prop
  | settings {fault : SettingsFault} (hfault : settings.fault? = some fault) :
    Ending settings now s (.error (.settings none fault))
  | noTables (hsettings : settings.fault? = none) (htables : s.tables = []) :
    Ending settings now s (.error .noTables)
  | tagged (hsettings : settings.fault? = none) (htables : s.tables ≠ [])
    (htagged : s.HasTaggedColumn) :
    Ending settings now s (.error (.validation ("; ".intercalate
      ((s.tables.flatMap Rule.tagErrors).map ValidationError.display))))
  | cycle {names : List String} (hsettings : settings.fault? = none) (htables : s.tables ≠ [])
    (huntagged : ¬ s.HasTaggedColumn)
    (hcycle : dependencyOrder s.tables s.associations = .error (.dependencyCycle names)) :
    Ending settings now s (.error (.dependencyCycle names))
  | project {order : List Nat} {c : Context} {p : Project} (hsettings : settings.fault? = none)
    (htables : s.tables ≠ []) (huntagged : ¬ s.HasTaggedColumn)
    (horder : dependencyOrder s.tables s.associations = .ok order)
    (hc : Context.ofSchema settings now s = .ok c) (hp : p.IsFrom settings s c order) :
    Ending settings now s (.ok p)

end Project

theorem dependencyOrder_eq_error {tables : List Table} {associations : List Association}
    {failure : Failure} (h : dependencyOrder tables associations = .error failure) :
    ∃ names, failure = .dependencyCycle names :=
  ⟨_, (dependencyOrder_eq_error_iff.mp h).2⟩

namespace Project

theorem generate_of_fault {fault : SettingsFault} (hfault : settings.fault? = some fault) :
    generate settings now s = .error (.settings none fault) := by
  rw [generate_eq, Settings.check, hfault]
  rfl

theorem generate_of_refused {failure : Failure} (hsettings : settings.fault? = none)
    (hresult : s.validate.result = .error failure) : generate settings now s = .error failure := by
  rw [generate_eq, Settings.check_eq_ok.mpr hsettings, hresult]
  rfl

theorem generate_of_cycle {failure : Failure} (hsettings : settings.fault? = none)
    (hresult : s.validate.result = .ok ())
    (hcycle : dependencyOrder s.tables s.associations = .error failure) :
    generate settings now s = .error failure := by
  rw [generate_eq, Settings.check_eq_ok.mpr hsettings, hresult, Context.ofSchema, hcycle]
  rfl

theorem generate_of_context (hsettings : settings.fault? = none)
    (hresult : s.validate.result = .ok ()) (hc : Context.ofSchema settings now s = .ok c) :
    generate settings now s = .ok (c.project s.validate.warnings) :=
  generate_eq_ok.mpr ⟨hsettings, hresult, c, hc, rfl⟩

/-- A generation ends in one of the ways. -/
theorem generate_ends : Ending settings now s (generate settings now s) := by
  cases hfault : settings.fault? with
  | some fault =>
    rw [generate_of_fault hfault]
    exact .settings hfault
  | none =>
    by_cases htables : s.tables = []
    · rw [generate_of_refused hfault (Schema.validate_result_of_no_tables htables)]
      exact .noTables hfault htables
    by_cases htagged : s.HasTaggedColumn
    · rw [generate_of_refused hfault (Schema.validate_result_of_tagged htables htagged)]
      exact .tagged hfault htables htagged
    have hresult := Schema.validate_result_of_untagged htables htagged
    cases horder : dependencyOrder s.tables s.associations with
    | error failure =>
      obtain ⟨names, rfl⟩ := dependencyOrder_eq_error horder
      rw [generate_of_cycle hfault hresult horder]
      exact .cycle hfault htables htagged horder
    | ok order =>
      obtain ⟨c, hc⟩ : ∃ c, Context.ofSchema settings now s = .ok c :=
        ⟨_, Context.ofSchema_eq_ok.mpr ⟨order, horder, rfl⟩⟩
      rw [generate_of_context hfault hresult hc]
      exact .project hfault htables htagged horder hc (Context.project_isFrom horder hc)

/-- No two of the ways are open at once. -/
theorem Ending.eq_generate {outcome : Except Failure Project}
    (h : Ending settings now s outcome) : generate settings now s = outcome := by
  cases h with
  | settings hfault => exact generate_of_fault hfault
  | noTables hsettings htables =>
    exact generate_of_refused hsettings (Schema.validate_result_of_no_tables htables)
  | tagged hsettings htables htagged =>
    exact generate_of_refused hsettings (Schema.validate_result_of_tagged htables htagged)
  | cycle hsettings htables huntagged hcycle =>
    exact generate_of_cycle hsettings (Schema.validate_result_of_untagged htables huntagged) hcycle
  | project hsettings htables huntagged horder hc hp =>
    rw [generate_of_context hsettings (Schema.validate_result_of_untagged htables huntagged) hc]
    rw [hp.unique (Context.project_isFrom horder hc)]

/-- A generation ends with the first fault there is, in the settings, in the schema or in the order
of its tables, and without one with the project of the schema. -/
theorem generate_eq_iff_ending {outcome : Except Failure Project} :
    generate settings now s = outcome ↔ Ending settings now s outcome := by
  refine ⟨?_, Ending.eq_generate⟩
  rintro rfl
  exact generate_ends

example : generate { extension := "" } ⟨0, 0, 0⟩ {} = .error (.settings none (.extension "")) := by
  decide

end Project

end DiagramMigrations
