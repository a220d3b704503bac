import DiagramMigrations.Compilation
import DiagramMigrations.FileTree
import Mathlib.Tactic.Common

/-!
How a compilation ends on a tree of files: what it comes to, the notices it leaves and the tree. As
long as nothing is written the tree stays as it is, and a compilation that fails gives no notice.
-/

set_option autoImplicit false
set_option relaxedAutoImplicit false

namespace DiagramMigrations

variable {base : String} {settings : Settings} {now : Timestamp} {notices : List Notice}
  {source : Source} {outcome : Outcome (Option Summary)} {t u v : FileTree}

/-! ### Writing -/

/-- Files that are written one after the other, all of them, take a tree to a tree. -/
inductive Written (base : String) : FileTree → List OutputFile → FileTree → Prop
  | nil (t : FileTree) : Written base t [] t
  | cons {t u v : FileTree} {f : OutputFile} {rest : List OutputFile}
    (hf : (f.write FileTree.disk base).run t = (.ok (), u)) (hrest : Written base u rest v) :
    Written base t (f :: rest) v

/-- How far a list of files is written: all of them are, or those before one that cannot be. -/
inductive WritesTo (base : String) (files : List OutputFile) (t : FileTree) :
    Progress → FileTree → Prop
  | all {v : FileTree} (hall : Written base t files v) :
    WritesTo base files t { written := files } v
  | stopped {u v : FileTree} {done rest : List OutputFile} {f : OutputFile} {failure : Failure}
    (hfiles : files = done ++ f :: rest) (hdone : Written base t done u)
    (hf : (f.write FileTree.disk base).run u = (.error failure, v)) :
    WritesTo base files t { written := done, failure := some failure } v

theorem writeFiles_cons_of_ok {f : OutputFile} {rest : List OutputFile}
    (hf : (f.write FileTree.disk base).run t = (.ok (), u)) :
    (writeFiles FileTree.disk base (f :: rest)).run t =
      let (progress, v) := (writeFiles FileTree.disk base rest).run u
      ({ progress with written := f :: progress.written }, v) := by
  rw [writeFiles, StateT.run_bind, hf]
  rfl

theorem writeFiles_cons_of_error {f : OutputFile} {rest : List OutputFile} {failure : Failure}
    (hf : (f.write FileTree.disk base).run t = (.error failure, u)) :
    (writeFiles FileTree.disk base (f :: rest)).run t = ({ failure := some failure }, u) := by
  rw [writeFiles, StateT.run_bind, hf]
  rfl

/-- Files are written up to the first that cannot be. -/
theorem exists_writesTo (base : String) (files : List OutputFile) (t : FileTree) :
    ∃ progress v, WritesTo base files t progress v := by
  induction files generalizing t with
  | nil => exact ⟨_, _, .all (.nil t)⟩
  | cons f rest ih =>
    rcases hf : (f.write FileTree.disk base).run t with ⟨failure | ⟨⟩, u⟩
    · exact ⟨_, _, .stopped rfl (.nil t) hf⟩
    · obtain ⟨progress, v, hrest⟩ := ih u
      cases hrest with
      | all hall => exact ⟨_, _, .all (.cons hf hall)⟩
      | stopped hfiles hdone hstop =>
        exact ⟨_, _, .stopped (congrArg (f :: ·) hfiles) (.cons hf hdone) hstop⟩

theorem Written.writeFiles_append {done : List OutputFile} (h : Written base t done u)
    (rest : List OutputFile) :
    (writeFiles FileTree.disk base (done ++ rest)).run t =
      let (progress, v) := (writeFiles FileTree.disk base rest).run u
      ({ progress with written := done ++ progress.written }, v) := by
  induction h with
  | nil => rfl
  | cons hf _ ih =>
    rw [List.cons_append, writeFiles_cons_of_ok hf, ih]
    rfl

/-- Files are written in one way only. -/
theorem WritesTo.run_eq {files : List OutputFile} {progress : Progress}
    (h : WritesTo base files t progress v) :
    (writeFiles FileTree.disk base files).run t = (progress, v) := by
  cases h with
  | all hall =>
    have hrun := hall.writeFiles_append []
    rw [List.append_nil] at hrun
    rw [hrun]
    change (({ written := files ++ [] } : Progress), v) = _
    rw [List.append_nil]
  | stopped hfiles hdone hf =>
    rw [hfiles, hdone.writeFiles_append, writeFiles_cons_of_error hf]
    dsimp only
    rw [List.append_nil]

/-! ### The ways a compilation ends -/

/-- Whether a failure is the fault of the diagram. -/
def Failure.OfDiagram (failure : Failure) : Prop :=
  (∃ text, failure = .validation text) ∨ failure = .noTables ∨
    ∃ tables, failure = .dependencyCycle tables

theorem Failure.isValidation_iff {failure : Failure} :
    failure.isValidation = true ↔ failure.OfDiagram := by
  cases failure <;> simp [isValidation, OfDiagram]

/-- Loading does not change the tree. -/
theorem Source.load_snd (source : Source) (t : FileTree) :
    ((source.load FileTree.disk).run t).2 = t := by
  cases source with
  | inline d => rfl
  | host description loaded => rfl
  | file path =>
    have hread : (FileTree.disk.read path).run t = (t.read path, t) := rfl
    rw [load, Diagram.load, StateT.run_bind, hread]
    cases t.read path <;> rfl

/-- What a compilation comes to, and the tree it leaves, for each way it may go. The notices are
those that were there and at most one more. -/
inductive Source.Ending (source : Source) (settings : Settings) (now : Timestamp)
    (notices : List Notice) (t : FileTree) : Outcome (Option Summary) → FileTree → Prop
  | notLoaded {failure : Failure}
    (hload : (source.load FileTree.disk).run t = (.error failure, t)) :
    Ending source settings now notices t { result := .error failure, notices } t
  | refused {d : Diagram} {failure : Failure}
    (hload : (source.load FileTree.disk).run t = (.ok d, t))
    (hgenerate : Project.generate settings now (Schema.ofDiagram d) = .error failure)
    (hfailure : failure.OfDiagram) :
    Ending source settings now notices t
      { result := .ok none, notices := notices ++ [.error failure.message] } t
  | notGenerated {d : Diagram} {failure : Failure}
    (hload : (source.load FileTree.disk).run t = (.ok d, t))
    (hgenerate : Project.generate settings now (Schema.ofDiagram d) = .error failure)
    (hfailure : ¬ failure.OfDiagram) :
    Ending source settings now notices t { result := .error failure, notices } t
  | notWritten {d : Diagram} {p : Project} {done rest : List OutputFile} {f : OutputFile}
    {failure : Failure} {u v : FileTree}
    (hload : (source.load FileTree.disk).run t = (.ok d, t))
    (hgenerate : Project.generate settings now (Schema.ofDiagram d) = .ok p)
    (hfiles : p.files = done ++ f :: rest)
    (hdone : Written settings.outputDirectory t done u)
    (hf : (f.write FileTree.disk settings.outputDirectory).run u = (.error failure, v)) :
    Ending source settings now notices t
      { result := .error failure, written := done, notices } v
  | delivered {d : Diagram} {p : Project} {v : FileTree}
    (hload : (source.load FileTree.disk).run t = (.ok d, t))
    (hgenerate : Project.generate settings now (Schema.ofDiagram d) = .ok p)
    (hall : Written settings.outputDirectory t p.files v) :
    Ending source settings now notices t
      { result := .ok (some (Summary.ofProject p)), written := p.files,
        notices := notices ++ [.info (Summary.ofProject p).message] } v

section Compile

variable {d : Diagram} {p : Project} {failure : Failure}

theorem Source.compile_of_not_loaded
    (hload : (source.load FileTree.disk).run t = (.error failure, t)) :
    (source.compile FileTree.disk settings now notices).run t =
      ({ result := .error failure, notices }, t) := by
  rw [compile, StateT.run_bind, hload]
  rfl

theorem Source.compile_of_loaded (hload : (source.load FileTree.disk).run t = (.ok d, t)) :
    (source.compile FileTree.disk settings now notices).run t =
      (d.compile FileTree.disk settings now notices).run t := by
  rw [compile, StateT.run_bind, hload]
  rfl

theorem Diagram.compile_of_refused
    (hgenerate : Project.generate settings now (Schema.ofDiagram d) = .error failure)
    (hfailure : failure.OfDiagram) :
    (d.compile FileTree.disk settings now notices).run t =
      ({ result := .ok none, notices := notices ++ [.error failure.message] }, t) := by
  rw [compile, hgenerate]
  dsimp only
  rw [if_pos (Failure.isValidation_iff.mpr hfailure)]
  rfl

theorem Diagram.compile_of_not_generated
    (hgenerate : Project.generate settings now (Schema.ofDiagram d) = .error failure)
    (hfailure : ¬ failure.OfDiagram) :
    (d.compile FileTree.disk settings now notices).run t =
      ({ result := .error failure, notices }, t) := by
  rw [compile, hgenerate]
  dsimp only
  rw [if_neg (mt Failure.isValidation_iff.mp hfailure)]
  rfl

theorem Diagram.compile_of_project
    (hgenerate : Project.generate settings now (Schema.ofDiagram d) = .ok p) :
    d.compile FileTree.disk settings now notices =
      p.deliver FileTree.disk settings notices := by
  rw [compile, hgenerate]

theorem Project.deliver_of_stopped {done : List OutputFile}
    (hwrite : (p.write FileTree.disk settings.outputDirectory).run t =
      ({ written := done, failure := some failure }, v)) :
    (p.deliver FileTree.disk settings notices).run t =
      ({ result := .error failure, written := done, notices }, v) := by
  rw [deliver, StateT.run_bind, hwrite]
  rfl

theorem Project.deliver_of_all
    (hwrite : (p.write FileTree.disk settings.outputDirectory).run t =
      ({ written := p.files }, v)) :
    (p.deliver FileTree.disk settings notices).run t =
      ({ result := .ok (some (Summary.ofProject p)), written := p.files,
         notices := notices ++ [.info (Summary.ofProject p).message] }, v) := by
  rw [deliver, StateT.run_bind, hwrite]
  rfl

end Compile

namespace Source

/-- Each way leads to one end. -/
theorem Ending.run_eq (h : Ending source settings now notices t outcome v) :
    (source.compile FileTree.disk settings now notices).run t = (outcome, v) := by
  cases h with
  | notLoaded hload => exact compile_of_not_loaded hload
  | refused hload hgenerate hfailure =>
    rw [compile_of_loaded hload, Diagram.compile_of_refused hgenerate hfailure]
  | notGenerated hload hgenerate hfailure =>
    rw [compile_of_loaded hload, Diagram.compile_of_not_generated hgenerate hfailure]
  | notWritten hload hgenerate hfiles hdone hf =>
    rw [compile_of_loaded hload, Diagram.compile_of_project hgenerate]
    exact Project.deliver_of_stopped (WritesTo.stopped hfiles hdone hf).run_eq
  | delivered hload hgenerate hall =>
    rw [compile_of_loaded hload, Diagram.compile_of_project hgenerate]
    exact Project.deliver_of_all (WritesTo.all hall).run_eq

/-- A compilation goes one of the ways. -/
theorem exists_ending (source : Source) (settings : Settings) (now : Timestamp)
    (notices : List Notice) (t : FileTree) :
    ∃ outcome v, Ending source settings now notices t outcome v := by
  rcases hload : (source.load FileTree.disk).run t with ⟨loaded, u⟩
  obtain rfl : u = t := by rw [← source.load_snd t, hload]
  cases loaded with
  | error failure => exact ⟨_, _, .notLoaded hload⟩
  | ok d =>
    cases hgenerate : Project.generate settings now (Schema.ofDiagram d) with
    | error failure =>
      by_cases hfailure : failure.OfDiagram
      · exact ⟨_, _, .refused hload hgenerate hfailure⟩
      · exact ⟨_, _, .notGenerated hload hgenerate hfailure⟩
    | ok p =>
      obtain ⟨progress, v, hwrites⟩ := exists_writesTo settings.outputDirectory p.files u
      cases hwrites with
      | all hall => exact ⟨_, _, .delivered hload hgenerate hall⟩
      | stopped hfiles hdone hf => exact ⟨_, _, .notWritten hload hgenerate hfiles hdone hf⟩

/-- A compilation of a source that fails, in loading, generating or writing, returns the failure and
gives no notice, unless the diagram is at fault: that is a notice and no failure. The tree changes
only by what is written, and of success there is one notice. -/
theorem compile_eq_iff_ending :
    (source.compile FileTree.disk settings now notices).run t = (outcome, v) ↔
      Ending source settings now notices t outcome v := by
  refine ⟨fun h ↦ ?_, Ending.run_eq⟩
  obtain ⟨outcome', v', hend⟩ := exists_ending source settings now notices t
  obtain ⟨rfl, rfl⟩ := Prod.mk.inj (hend.run_eq.symm.trans h)
  exact hend

end Source

end DiagramMigrations
