import DiagramMigrations.Disk
import DiagramMigrations.Settings.Reader

/-!
Settings on a disk.
-/

set_option autoImplicit false
set_option relaxedAutoImplicit false

namespace DiagramMigrations

/-- What is wrong with settings that come from a file. -/
def Failure.inSettings (path : String) : Failure → Failure
  | .settings _ fault => .settings (some path) fault
  | failure => failure

/-- Reads the settings in a file. -/
def Settings.load {m : Type → Type} [Monad m] (disk : Disk m) (path : String) :
    m (Except Failure Settings) := do
  match ← disk.read path with
  | .error error => return .error (.unreadableFile path error)
  | .ok text => return (parse text).mapError (.inSettings path)

end DiagramMigrations
