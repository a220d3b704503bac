import DiagramMigrations.Compilation
import DiagramMigrations.Console.Arguments
import DiagramMigrations.Console.Output
import DiagramMigrations.Settings.File

/-!
The command that compiles a diagram, in earnest or as a dry run, which lists the files and writes
none.
-/

set_option autoImplicit false
set_option relaxedAutoImplicit false

namespace DiagramMigrations.Console

variable {m : Type → Type} [Monad m]

namespace GenerateArguments

/-- Settings overridden by arguments. -/
def override (a : GenerateArguments) (s : Settings) : Settings :=
  { s with
    outputDirectory := a.output.getD s.outputDirectory
    timestamp := a.timestamp <|> s.timestamp
    generateEnums := s.generateEnums && !a.noEnums }

/-- The settings of a generation. -/
def settings (disk : Disk m) (a : GenerateArguments) : m (Except Failure Settings) := do
  match a.config with
  | none => return .ok (a.override {})
  | some path => return (← Settings.load disk path).map a.override

end GenerateArguments

/-- The line for a file that would be written. -/
def listingLine (base : String) (f : OutputFile) : Printed :=
  printLine (f.pathIn base ++ " (" ++ toString f.size ++ " bytes)")

/-- The session of a project that is not written. -/
def listing (colours : Bool) (base : String) (p : Project) : Session where
  printed := p.files.map (listingLine base) ++ p.warnings.map (warningLine colours) ++
    [printLine "", print (Summary.ofProject p).box, printLine "Dry run: nothing was written."]
  ending := .success

/-- The session of a dry run on a diagram. -/
def dryRunOn (colours : Bool) (settings : Settings) (now : Timestamp) (d : Diagram) : Session :=
  match Project.generate settings now (Schema.ofDiagram d) with
  | .ok project => listing colours settings.outputDirectory project
  | .error failure =>
    if failure.isValidation then ⟨[noticeLine colours (.error failure.message)], .aborted⟩
    else .ofFailure colours "" failure.message

/-- A dry run. -/
def dryRun (disk : Disk m) (colours : Bool) (settings : Settings) (now : Timestamp)
    (path : String) : m Session := do
  match ← Diagram.load disk path with
  | .error failure =>
    return .ofFailure colours ("failed to load " ++ path ++ ": ") failure.message
  | .ok diagram => return dryRunOn colours settings now diagram

/-- The session of a compilation. -/
def Session.ofOutcome (colours : Bool) (settings : Settings) (path : String)
    (outcome : Outcome (Option Summary)) : Session :=
  match outcome.result with
  | .error failure =>
    .ofFailure colours ("failed to generate from " ++ path ++ ": ") failure.message
  | .ok none => ⟨outcome.notices.map (noticeLine colours), .aborted⟩
  | .ok (some summary) =>
    ⟨outcome.notices.map (noticeLine colours) ++
      [printLine "", print summary.box, printLine ("Output: " ++ settings.outputDirectory)],
      .success⟩

/-- A compilation in earnest. -/
def compile (disk : Disk m) (colours : Bool) (settings : Settings) (now : Timestamp)
    (path : String) : m Session :=
  return .ofOutcome colours settings path (← (Source.file path).compile disk settings now [])

/-- Carries out a generation. -/
def generate (disk : Disk m) (colours : Bool) (now : Timestamp) (a : GenerateArguments) :
    m Session := do
  match ← a.settings disk with
  | .error failure => return .ofFailure colours "" failure.message
  | .ok settings =>
    if a.dryRun then dryRun disk colours settings now a.diagram
    else compile disk colours settings now a.diagram

end DiagramMigrations.Console
