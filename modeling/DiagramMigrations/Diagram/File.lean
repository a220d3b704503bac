import DiagramMigrations.Diagram.Document
import DiagramMigrations.Diagram.Printer
import DiagramMigrations.Disk
import DiagramMigrations.Path

/-!
Diagram documents on a disk.
-/

set_option autoImplicit false
set_option relaxedAutoImplicit false

namespace DiagramMigrations.Diagram

variable {m : Type → Type} [Monad m]

/-- Reads the document in a file. -/
def load (disk : Disk m) (path : String) : m (Except Failure Diagram) := do
  match ← disk.read path with
  | .error error => return .error (.unreadableFile path error)
  | .ok text => return (parse text).mapError (.unreadableDiagram path)

/-- Creates the directory above a path if nothing is there. -/
def makeParent (disk : Disk m) (path : String) : m (Except Failure Unit) := do
  match Path.parent? path with
  | none | some "" => return .ok ()
  | some parent =>
    if ← disk.isPresent parent then return .ok ()
    else return (← disk.makeDirectories parent).mapError (.noDirectory parent)

/-- Writes the document of a diagram to a file. -/
def save (disk : Disk m) (path : String) (d : Diagram) : m (Except Failure Unit) := do
  match ← makeParent disk path with
  | .error failure => return .error failure
  | .ok () => return (← disk.write path d.render).mapError (.unwritableFile path)

end DiagramMigrations.Diagram
