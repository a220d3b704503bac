import DiagramMigrations.Proofs.Project.OutputPaths

/-!
What the settings decide about the content of the files. A context under other settings has found
out the same about its schema, and a file holds nothing else of the settings than the namespace of
the enumerations; the rest of them decides where files stand and which kinds there are.
-/

set_option autoImplicit false
set_option relaxedAutoImplicit false

namespace DiagramMigrations

/-- What a file is and what it holds, wherever it stands. -/
def OutputFile.substance (f : OutputFile) : FileKind × String :=
  (f.kind, f.content)

theorem OutputFile.map_substance_snd (files : List OutputFile) :
    (files.map OutputFile.substance).map Prod.snd = files.map OutputFile.content := by
  rw [List.map_map]
  rfl

namespace Context

variable {a b : Settings} {now later start : Timestamp} {s : Schema} {c : Context}

/-- The context with other settings, and another time to start from. -/
def under (c : Context) (settings : Settings) (start : Timestamp) : Context :=
  { c with settings, start }

/-- Nothing that a context finds out about its schema depends on the settings. -/
theorem ofSchema_under (a b : Settings) (now later : Timestamp) (s : Schema) :
    ofSchema b later s =
      (ofSchema a now s).map fun c ↦ c.under b (b.timestamp.getD later) := by
  unfold ofSchema
  cases dependencyOrder s.tables s.associations <;> rfl

/-- The migrations hold the same wherever their tables stand in the order, and whenever they are
made. -/
theorem substance_migrationOutputs (c : Context) : c.migrationOutputs.map OutputFile.substance =
    c.tables.map fun t ↦ (.migration, (c.migration t).text c.settings.enumNamespace) := by
  rw [migrationOutputs, List.map_map]
  conv_rhs => rw [← List.zipIdx_map_fst 0 c.tables, List.map_map]
  rfl

theorem substance_enumOutputs (c : Context) : c.enumOutputs.map OutputFile.substance =
    if c.hasEnumClasses then
      (.enumerationBase, EnumClass.baseText c.settings.enumNamespace) :: c.enumerations.map
        fun e ↦ (.enumeration, (c.enumClass e).text c.settings.enumNamespace)
    else [] := by
  rw [enumOutputs]
  split_ifs
  · rw [List.map_cons, List.map_map]
    rfl
  · rfl

theorem substance_project (c : Context) (warnings : List ValidationWarning) :
    (c.project warnings).files.map OutputFile.substance =
      c.migrationOutputs.map OutputFile.substance ++ c.enumOutputs.map OutputFile.substance :=
  List.map_append

theorem migrationOutputs_under (hspace : b.enumNamespace = c.settings.enumNamespace) :
    (c.under b start).migrationOutputs.map OutputFile.substance =
      c.migrationOutputs.map OutputFile.substance := by
  rw [substance_migrationOutputs, substance_migrationOutputs, ← hspace]
  rfl

theorem enumOutputs_under (hspace : b.enumNamespace = c.settings.enumNamespace)
    (henums : b.generateEnums = c.settings.generateEnums) :
    (c.under b start).enumOutputs.map OutputFile.substance =
      c.enumOutputs.map OutputFile.substance := by
  have hsame : (c.under b start).hasEnumClasses = c.hasEnumClasses := by
    unfold hasEnumClasses
    rw [← henums]
    rfl
  rw [substance_enumOutputs, substance_enumOutputs, hsame, ← hspace]
  rfl

end Context

namespace Project

variable {a b settings : Settings} {now later : Timestamp} {s : Schema} {c : Context}

/-- How two projects agree that come from one schema under two settings. -/
structure Agrees (a b : Settings) (p q : Project) : Prop where
  name : p.name = q.name
  warnings : p.warnings = q.warnings
  migrations : (p.filesOf .migration).map OutputFile.content =
    (q.filesOf .migration).map OutputFile.content
  files : a.generateEnums = b.generateEnums →
    p.files.map OutputFile.substance = q.files.map OutputFile.substance
  withoutEnums : a.generateEnums = false → b.generateEnums = true →
    q.filesOf .migration <+: q.files ∧
      p.files.map OutputFile.substance = (q.filesOf .migration).map OutputFile.substance

theorem agrees_under (start : Timestamp) (warnings : List ValidationWarning)
    (hspace : b.enumNamespace = c.settings.enumNamespace) :
    Agrees c.settings b (c.project warnings) ((c.under b start).project warnings) where
  name := rfl
  warnings := rfl
  migrations := by
    rw [Context.migrations_project, Context.migrations_project, ← OutputFile.map_substance_snd,
      ← OutputFile.map_substance_snd, Context.migrationOutputs_under hspace]
  files henums := by
    rw [Context.substance_project, Context.substance_project,
      Context.migrationOutputs_under hspace, Context.enumOutputs_under hspace henums.symm]
  withoutEnums hwithout _ := by
    have hnone : c.enumOutputs = [] := if_neg (by simp [Context.hasEnumClasses, hwithout])
    rw [Context.migrations_project]
    refine ⟨List.prefix_append _ _, ?_⟩
    rw [Context.substance_project, Context.migrationOutputs_under hspace, hnone, List.map_nil,
      List.append_nil]

theorem generate_of_no_fault (h : settings.fault? = none) : generate settings now s =
    s.validate.result.bind fun _ ↦
      (Context.ofSchema settings now s).map fun c ↦ c.project s.validate.warnings := by
  rw [generate_eq, Settings.check_eq_ok.mpr h]
  rfl

/-- What the files of a project hold depends on its schema and on the namespace of the enumerations
alone. Two generations from one schema, under settings that are in order and share that namespace,
fail in the same way or both succeed; then the migrations hold the same, the warnings are the same,
and the files are of the same kinds and hold the same, except that without enumeration classes there
are only the migrations. -/
theorem generate_agrees (ha : a.fault? = none) (hb : b.fault? = none)
    (hspace : a.enumNamespace = b.enumNamespace) (now later : Timestamp) (s : Schema) :
    (∃ failure, generate a now s = .error failure ∧ generate b later s = .error failure) ∨
      ∃ p q, generate a now s = .ok p ∧ generate b later s = .ok q ∧ Agrees a b p q := by
  rw [generate_of_no_fault ha, generate_of_no_fault hb, Context.ofSchema_under a b now later]
  cases s.validate.result with
  | error failure => exact Or.inl ⟨failure, rfl, rfl⟩
  | ok _ =>
    cases hc : Context.ofSchema a now s with
    | error failure => exact Or.inl ⟨failure, rfl, rfl⟩
    | ok c =>
      obtain rfl := Context.settings_eq hc
      exact Or.inr ⟨_, _, rfl, rfl, agrees_under _ _ hspace.symm⟩

/-- The settings as they are by default, with a time. -/
def timed : Settings :=
  { timestamp := some ⟨738276, 34200, 0⟩ }

/-- Settings that keep the namespace and nothing else. -/
def elsewhere : Settings where
  outputDirectory := "elsewhere"
  extension := "inc"
  enumsDirectory := "States"
  generateEnums := false
  timestamp := some ⟨0, 1, 0⟩

/-- A witness: of a shop whose posts have states there are three files under the one settings, and
under the others only the migration, which holds the same. -/
theorem shop_agrees :
    ∃ p q, generate elsewhere ⟨1, 0, 0⟩ (.shop "post state") = .ok p ∧
      generate timed ⟨0, 0, 0⟩ (.shop "post state") = .ok q ∧
      p.files.length = 1 ∧ q.files.length = 3 ∧ Agrees elsewhere timed p q := by
  have hone : (generate elsewhere ⟨1, 0, 0⟩ (.shop "post state")).map
      (fun p ↦ p.files.length) = .ok 1 := by decide +kernel
  have hmany : (generate timed ⟨0, 0, 0⟩ (.shop "post state")).map
      (fun q ↦ q.files.length) = .ok 3 := by decide +kernel
  obtain ⟨p, hp, hsingle⟩ := map_eq_ok.mp hone
  obtain ⟨q, hq, hthree⟩ := map_eq_ok.mp hmany
  have helsewhere : Settings.fault? elsewhere = none := by decide
  have htimed : Settings.fault? timed = none := by decide
  obtain ⟨failure, hfailure, -⟩ | ⟨p', q', hp', hq', hagrees⟩ :=
    generate_agrees helsewhere htimed rfl ⟨1, 0, 0⟩ ⟨0, 0, 0⟩ (.shop "post state")
  · cases hp.symm.trans hfailure
  · obtain rfl := Except.ok.inj (hp.symm.trans hp')
    obtain rfl := Except.ok.inj (hq.symm.trans hq')
    exact ⟨p, q, hp, hq, hsingle, hthree, hagrees⟩

end Project

end DiagramMigrations
