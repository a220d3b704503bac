import DiagramMigrations.Diagram.File
import DiagramMigrations.Notice
import DiagramMigrations.Project.Generation
import DiagramMigrations.Project.Summary
import DiagramMigrations.Project.Writing
import DiagramMigrations.Schema.Extraction

/-!
Compilations from a source to files. If the diagram is at fault, that is a notice and not a failure,
and nothing is written; success is a notice as well.
-/

set_option autoImplicit false
set_option relaxedAutoImplicit false

namespace DiagramMigrations

/-- Where a diagram comes from: it is at hand, it is in a file, or a host hands it over, with a text
that says where from, or cannot. -/
inductive Source
  | inline (diagram : Diagram)
  | file (path : String)
  | host (description : String) (loaded : Except Failure Diagram)
  deriving Repr

/-- A source in words. -/
def Source.describe : Source → String
  | inline diagram => "diagram '" ++ diagram.name ++ "'"
  | file path => path
  | host description _ => description

/-- What a compilation came to: its result, the files it has written, and all notices so far. -/
structure Outcome (α : Type) where
  result : Except Failure α
  written : List OutputFile := []
  notices : List Notice := []

variable {m : Type → Type} [Monad m]

/-- The diagram of a source. -/
def Source.load (disk : Disk m) : Source → m (Except Failure Diagram)
  | inline diagram => return .ok diagram
  | file path => Diagram.load disk path
  | host _ loaded => return loaded

/-- Generates the project of a schema and writes it to the output directory of the settings. -/
def Schema.compile (disk : Disk m) (settings : Settings) (now : Timestamp) (s : Schema) :
    m (Outcome Project) := do
  match Project.generate settings now s with
  | .error failure => return { result := .error failure }
  | .ok project =>
    let progress ← project.write disk settings.outputDirectory
    return { result := progress.result.map fun _ ↦ project, written := progress.written }

/-- Writes a project and tells of it. -/
def Project.deliver (disk : Disk m) (settings : Settings) (notices : List Notice) (p : Project) :
    m (Outcome (Option Summary)) := do
  let progress ← p.write disk settings.outputDirectory
  match progress.failure with
  | some failure => return { result := .error failure, written := progress.written, notices }
  | none =>
    let summary := Summary.ofProject p
    return {
      result := .ok (some summary)
      written := progress.written
      notices := notices ++ [.info summary.message] }

/-- Compiles a diagram; the notices are added to those that are there. -/
def Diagram.compile (disk : Disk m) (settings : Settings) (now : Timestamp) (notices : List Notice)
    (d : Diagram) : m (Outcome (Option Summary)) :=
  match Project.generate settings now (Schema.ofDiagram d) with
  | .ok project => project.deliver disk settings notices
  | .error failure =>
    if failure.isValidation then
      return { result := .ok none, notices := notices ++ [.error failure.message] }
    else return { result := .error failure, notices }

/-- Compiles the diagram of a source. -/
def Source.compile (disk : Disk m) (settings : Settings) (now : Timestamp) (notices : List Notice)
    (source : Source) : m (Outcome (Option Summary)) := do
  match ← source.load disk with
  | .error failure => return { result := .error failure, notices }
  | .ok diagram => diagram.compile disk settings now notices

end DiagramMigrations
