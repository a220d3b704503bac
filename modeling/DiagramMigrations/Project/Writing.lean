import DiagramMigrations.Disk
import DiagramMigrations.Failure
import DiagramMigrations.Project.Basic

/-!
Writing a project: file after file, each after the directories above it, up to the first that cannot
be written.
-/

set_option autoImplicit false
set_option relaxedAutoImplicit false

namespace DiagramMigrations

/-- How far writing has come: the files that were written, in order, and why it stopped before the
end. -/
structure Progress where
  written : List OutputFile := []
  failure : Option Failure := none
  deriving DecidableEq, Repr

/-- Writing as a whole. -/
def Progress.result (p : Progress) : Except Failure Unit :=
  match p.failure with
  | none => .ok ()
  | some failure => .error failure

variable {m : Type → Type} [Monad m]

/-- Creates the directories above a path. -/
def makeParents (disk : Disk m) (path : String) : m (Except Failure Unit) := do
  match Path.parent? path with
  | none => return .ok ()
  | some parent => return (← disk.makeDirectories parent).mapError (.noDirectory parent)

namespace OutputFile

/-- The path of a file below a directory. -/
def pathIn (base : String) (f : OutputFile) : String :=
  Path.join base f.path

/-- Writes a file below a directory. -/
def write (disk : Disk m) (base : String) (f : OutputFile) : m (Except Failure Unit) := do
  let path := f.pathIn base
  match ← makeParents disk path with
  | .error failure => return .error failure
  | .ok () => return (← disk.write path f.content).mapError (.unwritableFile path)

end OutputFile

/-- Writes files below a directory. -/
def writeFiles (disk : Disk m) (base : String) : List OutputFile → m Progress
  | [] => return {}
  | f :: rest => do
    match ← f.write disk base with
    | .error failure => return { failure := some failure }
    | .ok () =>
      let progress ← writeFiles disk base rest
      return { progress with written := f :: progress.written }

/-- Writes a project below a directory. -/
def Project.write (disk : Disk m) (base : String) (p : Project) : m Progress :=
  writeFiles disk base p.files

end DiagramMigrations
