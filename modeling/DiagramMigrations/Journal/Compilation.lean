import DiagramMigrations.Compilation
import DiagramMigrations.Journal.Extraction
import DiagramMigrations.Journal.Generation

/-!
The events of compilations, read off what they came to.
-/

set_option autoImplicit false
set_option relaxedAutoImplicit false

namespace DiagramMigrations.Journal

/-- The event of a source that is about to be loaded. -/
def ofSource (source : Source) : Event where
  level := .debug
  message := "loading diagram"
  fields := [("source", source.describe)]

/-- The event of a file that was written. -/
def ofFile (base : String) (f : OutputFile) : Event where
  level := .debug
  message := "file written"
  fields := [("path", f.pathIn base), ("bytes", toString f.size)]

/-- The event of a notice. -/
def ofNotice (n : Notice) : Event where
  level := match n.kind with
    | .info => .info
    | .error => .error
  message := n.text

/-- The event of a failure, if no file is at fault. -/
def ofFailure (failure : Failure) : List Event :=
  if failure.isFile then [] else [ofNotice (.error failure.message)]

/-- The event of a project that was written. -/
def ofDelivery (base : String) (p : Project) : Event where
  level := .info
  message := "files written to disk"
  fields := [("output_dir", base), ("files", toString p.files.length)]

/-- The events of generating the project of a diagram, and a notice of how it ended. -/
def ofGenerating (settings : Settings) (now : Timestamp) (d : Diagram) : List Event :=
  let s := Schema.ofDiagram d
  ofExtraction d ++ ofGeneration settings now s ++
    match Project.generate settings now s with
    | .ok project => [ofNotice (.info (Summary.ofProject project).message)]
    | .error failure => ofFailure failure

/-- The events of compiling the schema of a diagram, and a notice of how it ended. -/
def ofWriting (settings : Settings) (now : Timestamp) (d : Diagram) (outcome : Outcome Project) :
    List Event :=
  ofExtraction d ++ ofGeneration settings now (Schema.ofDiagram d) ++
    outcome.written.map (ofFile settings.outputDirectory) ++
    match outcome.result with
    | .ok project => [
        ofDelivery settings.outputDirectory project,
        ofNotice (.info (Summary.ofProject project).message)]
    | .error failure => ofFailure failure

/-- The events of compiling a diagram that is at hand, and a notice of how it ended. -/
def ofRunning (settings : Settings) (now : Timestamp) (d : Diagram)
    (outcome : Outcome (Option Summary)) : List Event :=
  ofSource (.inline d) :: ofExtraction d ++ ofGeneration settings now (Schema.ofDiagram d) ++
    outcome.written.map (ofFile settings.outputDirectory) ++
    outcome.notices.map ofNotice ++
    match outcome.result with
    | .ok _ => []
    | .error failure => ofFailure failure

end DiagramMigrations.Journal
