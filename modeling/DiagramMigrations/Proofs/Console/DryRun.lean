import DiagramMigrations.Console.Command
import DiagramMigrations.Proofs.Diagram.Saving
import DiagramMigrations.Proofs.FileTree.Writing
import DiagramMigrations.Proofs.Project.EnumReferences
import DiagramMigrations.Proofs.Project.OutputPaths

/-!
What a dry run says about the run in earnest. Both resolve the same settings, load the same diagram
and generate the same project, if the settings tell the time; so they part only where the one lists
the files that the other writes.
-/

set_option autoImplicit false
set_option relaxedAutoImplicit false

namespace DiagramMigrations.Console

open FileTree

variable {a : GenerateArguments} {settings : Settings} {d : Diagram} {p : Project}
  {failure : Failure} {outcome : Outcome (Option Summary)} {t u : FileTree} {colours : Bool}
  {now : Timestamp} {path : String}

/-! ### Settings -/

theorem settings_load_snd (path : String) (t : FileTree) :
    ((Settings.load FileTree.disk path).run t).2 = t := by
  have hread : (FileTree.disk.read path).run t = (t.read path, t) := rfl
  rw [Settings.load, StateT.run_bind, hread]
  cases t.read path <;> rfl

/-- Resolving the settings changes nothing. -/
theorem settings_snd (a : GenerateArguments) (t : FileTree) :
    ((a.settings FileTree.disk).run t).2 = t := by
  unfold GenerateArguments.settings
  cases a.config with
  | none => rfl
  | some path => exact settings_load_snd path t

theorem run_generate_of_no_settings (h : (a.settings FileTree.disk).run t = (.error failure, t))
    (dry : Bool) :
    ((Command.generate { a with dryRun := dry }).run FileTree.disk colours now).run t =
      (.ofFailure colours "" failure.message, t) := by
  have hsettings : (GenerateArguments.settings FileTree.disk { a with dryRun := dry }).run t =
      (.error failure, t) := h
  rw [Command.run, generate, StateT.run_bind, hsettings]
  rfl

theorem run_generate_of_settings (h : (a.settings FileTree.disk).run t = (.ok settings, t))
    (dry colours : Bool) (now : Timestamp) :
    ((Command.generate { a with dryRun := dry }).run FileTree.disk colours now).run t =
      (if dry then dryRun FileTree.disk colours settings now a.diagram
        else compile FileTree.disk colours settings now a.diagram).run t := by
  have hsettings : (GenerateArguments.settings FileTree.disk { a with dryRun := dry }).run t =
      (.ok settings, t) := h
  rw [Command.run, generate, StateT.run_bind, hsettings]
  rfl

/-! ### The two runs -/

theorem run_dryRun_of_not_loaded
    (h : (Diagram.load FileTree.disk path).run t = (.error failure, t)) :
    (dryRun FileTree.disk colours settings now path).run t =
      (.ofFailure colours ("failed to load " ++ path ++ ": ") failure.message, t) := by
  rw [dryRun, StateT.run_bind, h]
  rfl

theorem run_dryRun_of_loaded (h : (Diagram.load FileTree.disk path).run t = (.ok d, t)) :
    (dryRun FileTree.disk colours settings now path).run t =
      (dryRunOn colours settings now d, t) := by
  rw [dryRun, StateT.run_bind, h]
  rfl

theorem dryRunOn_of_refused
    (h : Project.generate settings now (Schema.ofDiagram d) = .error failure)
    (hfailure : failure.OfDiagram) : dryRunOn colours settings now d =
      ⟨[noticeLine colours (.error failure.message)], .aborted⟩ := by
  rw [dryRunOn, h]
  exact if_pos (Failure.isValidation_iff.mpr hfailure)

theorem dryRunOn_of_not_generated
    (h : Project.generate settings now (Schema.ofDiagram d) = .error failure)
    (hfailure : ¬ failure.OfDiagram) :
    dryRunOn colours settings now d = .ofFailure colours "" failure.message := by
  rw [dryRunOn, h]
  exact if_neg (mt Failure.isValidation_iff.mp hfailure)

theorem run_compile_of_ending
    (h : Source.Ending (.file path) settings now [] t outcome u) :
    (compile FileTree.disk colours settings now path).run t =
      (.ofOutcome colours settings path outcome, u) := by
  rw [compile, StateT.run_bind, h.run_eq]
  rfl

/-! ### What is foretold -/

/-- The session of a dry run that lists a project, with the size of each file in bytes. -/
def listed (colours : Bool) (base : String) (p : Project) : Session where
  printed := (p.files.map fun f ↦ printLine (f.pathIn base ++ " (" ++
      toString (Text.bytes f.content).length ++ " bytes)")) ++
    p.warnings.map (warningLine colours) ++
    [printLine "", print (Summary.ofProject p).box, printLine "Dry run: nothing was written."]
  ending := .success

/-- The session of a run in earnest that writes a project. -/
def written (colours : Bool) (base : String) (p : Project) : Session where
  printed := [noticeLine colours (.info (Summary.ofProject p).message), printLine "",
    print (Summary.ofProject p).box, printLine ("Output: " ++ base)]
  ending := .success

theorem listing_eq (base : String) (p : Project) :
    listing colours base p = listed colours base p := by
  have hline (f : OutputFile) : listingLine base f = printLine (f.pathIn base ++ " (" ++
      toString (Text.bytes f.content).length ++ " bytes)") := by
    rw [listingLine, OutputFile.size, Text.length_bytes]
  rw [listing, listed, List.map_congr_left fun f _ ↦ hline f]

theorem dryRunOn_of_project (h : Project.generate settings now (Schema.ofDiagram d) = .ok p) :
    dryRunOn colours settings now d = listed colours settings.outputDirectory p := by
  rw [dryRunOn, h]
  exact listing_eq settings.outputDirectory p

/-- Whether a tree is what becomes of another one when the files of a project are written below a
base. At the path of each file stands the content of the last file that leads to the same place, and
of paths that do not turn back these are the ones with the same steps; elsewhere there are at most
new directories. -/
structure HoldsProject (t u : FileTree) (base : String) (p : Project) : Prop where
  last : ∀ f ∈ p.files, ∃ here last, u.follow (f.pathIn base) = .ok here ∧
    u.lastAt base p.files here = some last ∧ u.read (f.pathIn base) = .ok last.content
  places : ∀ f ∈ p.files, ∀ g ∈ p.files, ".." ∉ Path.parts f.path → ".." ∉ Path.parts g.path →
    (u.follow (f.pathIn base) = u.follow (g.pathIn base) ↔ f.place = g.place)
  others : ∀ here, u.lastAt base p.files here = none → Grows (t.entry? here) (u.entry? here)

theorem holdsProject_of_written {base : String}
    (hp : Project.generate settings now (Schema.ofDiagram d) = .ok p)
    (h : Written base t p.files u) : HoldsProject t u base p := by
  have hholds := h.holdsFiles
  refine ⟨fun f hf ↦ hholds.exists_last hf, fun f hf g hg hforward hforward' ↦ ?_, hholds.others⟩
  obtain ⟨here, hhere⟩ := hholds.leads f hf
  obtain ⟨there, hthere⟩ := hholds.leads g hg
  rw [OutputFile.place, OutputFile.place,
    ← follow_join_eq_iff (Project.paths_relative hp hf) (Project.paths_relative hp hg) hforward
      hforward' hhere hthere, hhere, hthere, Except.ok.injEq]

/-- How a dry run and a run in earnest end on a tree, and the tree that the latter leaves. -/
inductive Foretells (colours : Bool) (a : GenerateArguments) (t : FileTree) :
    Session → Session → FileTree → Prop
  | failed {dry real : Session} (hdry : dry.ending = .failed) (hreal : real.ending = .failed) :
    Foretells colours a t dry real t
  | aborted {settings : Settings} {d : Diagram} {failure : Failure}
    (hsettings : (a.settings FileTree.disk).run t = (.ok settings, t))
    (hload : (Diagram.load FileTree.disk a.diagram).run t = (.ok d, t))
    (hgenerate : ∀ now, Project.generate settings now (Schema.ofDiagram d) = .error failure) :
    Foretells colours a t ⟨[noticeLine colours (.error failure.message)], .aborted⟩
      ⟨[noticeLine colours (.error failure.message)], .aborted⟩ t
  | success {settings : Settings} {d : Diagram} {p : Project} {u : FileTree}
    (hsettings : (a.settings FileTree.disk).run t = (.ok settings, t))
    (hload : (Diagram.load FileTree.disk a.diagram).run t = (.ok d, t))
    (hgenerate : ∀ now, Project.generate settings now (Schema.ofDiagram d) = .ok p)
    (hholds : HoldsProject t u settings.outputDirectory p) :
    Foretells colours a t (listed colours settings.outputDirectory p)
      (written colours settings.outputDirectory p) u

/-- A dry run tells the truth. If the settings tell the time and everything that is generated can be
written, a dry run and a run in earnest both fail, or are both aborted with the same message, or
both succeed with the same summary; then the tree holds the files that the dry run has listed. The
dry run leaves the tree as it was. -/
theorem dry_run_foretells (colours : Bool) (earlier later : Timestamp) (a : GenerateArguments)
    (t : FileTree)
    (hclock : ∀ settings, (a.settings FileTree.disk).run t = (.ok settings, t) →
      settings.timestamp.isSome = true)
    (hwrites : ∀ settings d p, (a.settings FileTree.disk).run t = (.ok settings, t) →
      (Diagram.load FileTree.disk a.diagram).run t = (.ok d, t) →
      Project.generate settings later (Schema.ofDiagram d) = .ok p →
        ((p.write FileTree.disk settings.outputDirectory).run t).1.failure = none) :
    ∃ dry real u,
      ((Command.generate { a with dryRun := true }).run FileTree.disk colours earlier).run t =
        (dry, t) ∧
      ((Command.generate { a with dryRun := false }).run FileTree.disk colours later).run t =
        (real, u) ∧
      Foretells colours a t dry real u := by
  rcases hsettings : (a.settings FileTree.disk).run t with ⟨resolved, w⟩
  obtain rfl : w = t := by rw [← settings_snd a t, hsettings]
  cases resolved with
  | error failure =>
    exact ⟨_, _, _, run_generate_of_no_settings hsettings true,
      run_generate_of_no_settings hsettings false, .failed rfl rfl⟩
  | ok settings =>
    have hdry := run_generate_of_settings hsettings true colours earlier
    have hreal := run_generate_of_settings hsettings false colours later
    have hsame (now : Timestamp) (s : Schema) :=
      Project.generate_of_timestamp (hclock settings hsettings) now later s
    obtain ⟨outcome, u, hends⟩ := Source.exists_ending (.file a.diagram) settings later [] w
    rw [if_pos rfl] at hdry
    rw [if_neg (by decide), run_compile_of_ending hends] at hreal
    cases hends with
    | notLoaded hload =>
      rw [run_dryRun_of_not_loaded hload] at hdry
      exact ⟨_, _, _, hdry, hreal, .failed rfl rfl⟩
    | refused hload hgenerate hfailure =>
      rw [run_dryRun_of_loaded hload,
        dryRunOn_of_refused ((hsame _ _).trans hgenerate) hfailure] at hdry
      exact ⟨_, _, _, hdry, hreal,
        .aborted hsettings hload fun now ↦ (hsame now _).trans hgenerate⟩
    | notGenerated hload hgenerate hfailure =>
      rw [run_dryRun_of_loaded hload,
        dryRunOn_of_not_generated ((hsame _ _).trans hgenerate) hfailure] at hdry
      exact ⟨_, _, _, hdry, hreal, .failed rfl rfl⟩
    | notWritten hload hgenerate hfiles hdone hf =>
      have hall := hwrites _ _ _ hsettings hload hgenerate
      rw [Project.write, (WritesTo.stopped hfiles hdone hf).run_eq] at hall
      cases hall
    | delivered hload hgenerate hall =>
      rw [run_dryRun_of_loaded hload, dryRunOn_of_project ((hsame _ _).trans hgenerate)] at hdry
      exact ⟨_, _, _, hdry, hreal, .success hsettings hload
        (fun now ↦ (hsame now _).trans hgenerate) (holdsProject_of_written hgenerate hall)⟩

/-- A tree with one document in it. -/
def documentTree (text : String) : FileTree where
  entries := [(["tickets.json"], .file text)]

theorem load_documentTree {text : String} (h : Diagram.parse text = .ok d) :
    (Diagram.load FileTree.disk "tickets.json").run (documentTree text) =
      (.ok d, documentTree text) := by
  have hread : (FileTree.disk.read "tickets.json").run (documentTree text) =
      (.ok text, documentTree text) := rfl
  rw [Diagram.load, StateT.run_bind, hread]
  change (((Diagram.parse text).mapError _, documentTree text) :
    Except Failure Diagram × FileTree) = _
  rw [h]
  rfl

theorem parse_tickets : Diagram.parse (Diagram.render .tickets) = .ok .tickets := by
  have hwords : ∀ t ∈ Diagram.types .tickets, t.toJson.HasWords := by
    have htypes : Diagram.types .tickets = [.name "", .reference "s"] := rfl
    simp [htypes, Diagram.AttributeType.toJson, Json.hasWords_object]
  rw [Diagram.parse_render hwords, if_pos (by decide)]
  rfl

/-- What a generation from the document of the tickets is asked for. -/
def ticketArguments : GenerateArguments where
  diagram := "tickets.json"
  timestamp := some ⟨738276, 34200, 0⟩

/-- The tree with that document. -/
def ticketTree : FileTree :=
  documentTree (Diagram.render .tickets)

/-- A witness: a dry run on the tickets lists the three files that are written. -/
theorem ticket_dry_run :
    ∃ (p : Project) (dry real : Session) (u : FileTree),
      ((Command.generate { ticketArguments with dryRun := true }).run FileTree.disk false
        ⟨0, 0, 0⟩).run ticketTree = (dry, ticketTree) ∧
      ((Command.generate { ticketArguments with dryRun := false }).run FileTree.disk false
        ⟨1, 0, 0⟩).run ticketTree = (real, u) ∧
      Project.generate (ticketArguments.override {}) ⟨1, 0, 0⟩ (Schema.ofDiagram .tickets) = .ok p ∧
      p.files.length = 3 ∧ dry = listed false "./generated" p ∧
      real = written false "./generated" p ∧ HoldsProject ticketTree u "./generated" p := by
  have hsettings : (ticketArguments.settings FileTree.disk).run ticketTree =
      (.ok (ticketArguments.override {}), ticketTree) := rfl
  have hresolved : ∀ settings, (ticketArguments.settings FileTree.disk).run ticketTree =
      (.ok settings, ticketTree) → settings = ticketArguments.override {} := fun settings h ↦
    (Except.ok.inj (Prod.mk.inj (hsettings.symm.trans h)).1).symm
  have hload : (Diagram.load FileTree.disk ticketArguments.diagram).run ticketTree =
      (.ok .tickets, ticketTree) := load_documentTree parse_tickets
  have hloaded : ∀ d, (Diagram.load FileTree.disk ticketArguments.diagram).run ticketTree =
      (.ok d, ticketTree) → d = .tickets := fun d h ↦
    (Except.ok.inj (Prod.mk.inj (hload.symm.trans h)).1).symm
  have hwritten : (Project.generate (ticketArguments.override {}) ⟨1, 0, 0⟩
      (Schema.ofDiagram .tickets)).map (fun p ↦
        (p.files.length, ((p.write FileTree.disk "./generated").run ticketTree).1.failure)) =
      .ok (3, none) := by decide +kernel
  obtain ⟨p, hp, hfiles⟩ := map_eq_ok.mp hwritten
  obtain ⟨dry, real, u, hdry, hreal, hforetells⟩ :=
    dry_run_foretells false ⟨0, 0, 0⟩ ⟨1, 0, 0⟩ ticketArguments ticketTree
      (fun settings h ↦ hresolved settings h ▸ rfl)
      (fun settings d q hs hl hq ↦ by
        obtain rfl := hresolved settings hs
        obtain rfl := hloaded d hl
        obtain rfl : p = q := Except.ok.inj (hp.symm.trans hq)
        exact (Prod.mk.inj hfiles).2)
  refine ⟨p, dry, real, u, hdry, hreal, hp, (Prod.mk.inj hfiles).1, ?_⟩
  have hlisted : Project.generate (ticketArguments.override {}) ⟨0, 0, 0⟩
      (Schema.ofDiagram .tickets) = .ok p := (Project.generate_of_timestamp rfl _ _ _).trans hp
  rw [run_generate_of_settings hsettings, if_pos rfl, run_dryRun_of_loaded hload,
    dryRunOn_of_project hlisted] at hdry
  have hending : dry.ending = .success := (congrArg Session.ending (Prod.mk.inj hdry).1).symm
  cases hforetells with
  | failed hfailed => exact absurd (hending.symm.trans hfailed) (by decide)
  | aborted => cases hending
  | success hs hl hq hholds =>
    obtain rfl := hresolved _ hs
    obtain rfl := hloaded _ hl
    obtain rfl := Except.ok.inj (hp.symm.trans (hq _))
    exact ⟨rfl, rfl, hholds⟩

end DiagramMigrations.Console
