import DiagramMigrations.Console.Command
import DiagramMigrations.Proofs.Compilation
import DiagramMigrations.Proofs.Diagram.Saving
import DiagramMigrations.Proofs.Project.Outcome

/-!
What the judging of a diagram says about its compilation. The command that judges looks for errors
and asks for an order of the tables, and so it ends well on the diagrams from which a project can be
generated, and with the warnings of that project.
-/

set_option autoImplicit false
set_option relaxedAutoImplicit false

namespace DiagramMigrations.Console

variable {settings : Settings} {now : Timestamp} {s : Schema} {d : Diagram} {t : FileTree}
  {colours : Bool} {path : String}

/-! ### What is printed -/

/-- The line on the error stream that reports a warning. -/
def reported (colours : Bool) (warning : String) : Printed where
  stream := .error
  text := (if colours then "\x1b[1;33mwarning:\x1b[0m" else "warning:") ++ " " ++ warning ++ "\n"

theorem warningLine_eq (warning : String) :
    warningLine colours warning = reported colours warning := by
  have hplain : Style.warning.paint false "warning:" = "warning:" := rfl
  have hpainted : Style.warning.paint true "warning:" = "\x1b[1;33mwarning:\x1b[0m" := by decide
  cases colours with
  | false => rw [warningLine, complain, hplain]; rfl
  | true => rw [warningLine, complain, hpainted]; rfl

/-- The line on the output stream that says what a diagram without errors holds, and how many
warnings there are. -/
def judgedValid (colours : Bool) (path : String) (s : Schema) (warnings : Nat) : Printed where
  stream := .output
  text := (if colours then "\x1b[1;32m✓\x1b[0m" else "✓") ++ " " ++ (path ++ " is valid: " ++
    toString s.tables.length ++ " table(s), " ++ toString s.enumerations.length ++
    " enumeration(s), " ++ toString s.associations.length ++ " foreign key(s), " ++
    toString warnings ++ " warning(s)") ++ "\n"

theorem validityLine_eq (report : Report) :
    validityLine colours path s report =
      judgedValid colours path s report.warnings.length := by
  have hplain : Style.success.paint false "✓" = "✓" := rfl
  have hpainted : Style.success.paint true "✓" = "\x1b[1;32m✓\x1b[0m" := by decide
  cases colours with
  | false => rw [validityLine, successLine, printLine, hplain]; rfl
  | true => rw [validityLine, successLine, printLine, hpainted]; rfl

/-! ### Judging and generating -/

theorem judge_of_errors (herrors : s.validate.errors ≠ []) :
    (judge colours path s).ending = .aborted := by
  have hhas : s.validate.hasErrors = true := by simpa [Report.hasErrors] using herrors
  rw [judge, if_pos hhas]

section WithoutErrors

variable (herrors : s.validate.errors = [])
include herrors

theorem judge_of_cycle {failure : Failure}
    (hcycle : dependencyOrder s.tables s.associations = .error failure) :
    (judge colours path s).ending = .aborted := by
  have hhas : ¬ s.validate.hasErrors = true := by simp [Report.hasErrors, herrors]
  rw [judge, if_neg hhas, hcycle]

theorem judge_of_order {order : List Nat}
    (horder : dependencyOrder s.tables s.associations = .ok order) :
    judge colours path s =
      ⟨s.validate.warnings.map (fun w ↦ warningLine colours w.display) ++
        [validityLine colours path s s.validate], .success⟩ := by
  have hhas : ¬ s.validate.hasErrors = true := by simp [Report.hasErrors, herrors]
  rw [judge, if_neg hhas, horder, reportLines, herrors]
  simp

end WithoutErrors

/-- How the judging of a schema ends, for each way in which a generation may end: a failure of the
generation is the fault of the diagram. -/
theorem judge_of_generate (colours : Bool) (path : String) (hsettings : settings.fault? = none)
    {outcome : Except Failure Project} (h : Project.Ending settings now s outcome) :
    (∃ p, outcome = .ok p ∧ judge colours path s =
        ⟨p.warnings.map (reported colours) ++ [judgedValid colours path s p.warnings.length],
          .success⟩) ∨
      ∃ failure, outcome = .error failure ∧ failure.OfDiagram ∧
        (judge colours path s).ending = .aborted := by
  cases h with
  | settings hfault =>
    rw [hsettings] at hfault
    cases hfault
  | noTables _ htables =>
    have herrors : s.validate.errors ≠ [] := fun h ↦
      (Schema.errors_validate_eq_nil_iff.mp h).1 htables
    exact Or.inr ⟨_, rfl, Or.inr (Or.inl rfl), judge_of_errors herrors⟩
  | tagged _ _ htagged =>
    have herrors : s.validate.errors ≠ [] := fun h ↦
      (Schema.errors_validate_eq_nil_iff.mp h).2 htagged
    exact Or.inr ⟨_, rfl, Or.inl ⟨_, rfl⟩, judge_of_errors herrors⟩
  | cycle _ htables huntagged hcycle =>
    have herrors := Schema.errors_validate_eq_nil_iff.mpr ⟨htables, huntagged⟩
    exact Or.inr ⟨_, rfl, Or.inr (Or.inr ⟨_, rfl⟩), judge_of_cycle herrors hcycle⟩
  | project _ htables huntagged horder _ hp =>
    have herrors := Schema.errors_validate_eq_nil_iff.mpr ⟨htables, huntagged⟩
    refine Or.inl ⟨_, rfl, ?_⟩
    rw [judge_of_order herrors horder, validityLine_eq, hp.warnings, List.map_map, List.length_map]
    simp only [warningLine_eq]
    rfl

/-! ### The command -/

theorem run_validate_of_loaded {clock : Timestamp}
    (hload : (Diagram.load FileTree.disk path).run t = (.ok d, t)) :
    ((Command.validate path).run FileTree.disk colours clock).run t =
      (judge colours path (Schema.ofDiagram d), t) := by
  rw [Command.run, validate, inspect, StateT.run_bind, hload]
  rfl

/-- Judging a diagram predicts its compilation: on a diagram that is loaded, and for settings
without a fault, it succeeds if a project is generated, and is aborted if the generation fails by
the fault of the diagram. If it succeeds, it reports the warnings of that project in their order,
each on a line of its own, and nothing else on the error stream. -/
theorem validate_predicts_generate (hload : (Diagram.load FileTree.disk path).run t = (.ok d, t))
    (hsettings : settings.fault? = none) (colours : Bool) (clock now : Timestamp) :
    ∃ session, ((Command.validate path).run FileTree.disk colours clock).run t = (session, t) ∧
      (session.ending = .success ↔
        ∃ p, Project.generate settings now (Schema.ofDiagram d) = .ok p) ∧
      (session.ending = .aborted ↔
        ∃ failure, Project.generate settings now (Schema.ofDiagram d) = .error failure ∧
          failure.OfDiagram) ∧
      ∀ p, Project.generate settings now (Schema.ofDiagram d) = .ok p →
        session.printed = p.warnings.map (reported colours) ++
          [judgedValid colours path (Schema.ofDiagram d) p.warnings.length] := by
  refine ⟨_, run_validate_of_loaded hload, ?_⟩
  have hends : Project.Ending settings now (Schema.ofDiagram d) _ := Project.generate_ends
  rcases judge_of_generate colours path hsettings hends with
    ⟨p, hp, hjudge⟩ | ⟨failure, hfailure, hdiagram, hjudge⟩
  · rw [hp, hjudge]
    simp
  · rw [hfailure, hjudge]
    simp [hdiagram]

/-- A witness: the enumeration of the states of a post has no literals, and both commands warn of
it. -/
theorem validate_predicts_generate_post :
    ∃ (t : FileTree) (p : Project) (session : Session),
      (Diagram.load FileTree.disk "post.json").run t = (.ok (.post (.name "string")), t) ∧
      Settings.fault? {} = none ∧
      Project.generate {} ⟨0, 0, 0⟩ (Schema.ofDiagram (.post (.name "string"))) = .ok p ∧
      ((Command.validate "post.json").run FileTree.disk false ⟨0, 0, 0⟩).run t = (session, t) ∧
      session.ending = .success ∧
      p.warnings = ["[enumerations.State] Warning: Enumeration 'State' has no literals"] ∧
      session.printed = [
        ⟨.error, "warning: [enumerations.State] Warning: Enumeration 'State' has no literals\n"⟩,
        ⟨.output, "✓ post.json is valid: 1 table(s), 1 enumeration(s), 0 foreign key(s), " ++
          "1 warning(s)\n"⟩] := by
  have hwords : (Json.text "string").HasWords := by simp [Json.hasWords_text]
  have hparse : Diagram.parse (Diagram.postDocument (.text "string")).render =
      .ok (.post (.name "string")) := Diagram.parse_postDocument hwords rfl
  generalize (Diagram.postDocument (.text "string")).render = text at hparse
  let t : FileTree := { entries := [(["post.json"], .file text)] }
  have hload : (Diagram.load FileTree.disk "post.json").run t =
      (.ok (.post (.name "string")), t) := by
    have hread : (FileTree.disk.read "post.json").run t = (.ok text, t) := rfl
    rw [Diagram.load, StateT.run_bind, hread]
    change (((Diagram.parse text).mapError _, t) : Except Failure Diagram × FileTree) = _
    rw [hparse]
    rfl
  have hdefaults : Settings.fault? {} = none := by decide
  have horder : dependencyOrder (Schema.ofDiagram (.post (.name "string"))).tables
      (Schema.ofDiagram (.post (.name "string"))).associations = .ok [0] := by decide
  obtain ⟨p, hp⟩ : ∃ p, Project.generate {} ⟨0, 0, 0⟩
      (Schema.ofDiagram (.post (.name "string"))) = .ok p :=
    Project.exists_generate hdefaults (by decide) horder
  obtain ⟨session, hrun, hsuccess, -, hprinted⟩ :=
    validate_predicts_generate hload hdefaults false ⟨0, 0, 0⟩ ⟨0, 0, 0⟩
  have hwarnings : p.warnings =
      ["[enumerations.State] Warning: Enumeration 'State' has no literals"] := by
    rw [Project.warnings_of_generate hp]
    decide
  refine ⟨t, p, session, hload, hdefaults, hp, hrun, hsuccess.mpr ⟨p, hp⟩, hwarnings, ?_⟩
  rw [hprinted p hp, hwarnings]
  decide

end DiagramMigrations.Console
