import DiagramMigrations.Console.Generate
import DiagramMigrations.Console.Inspect

/-!
Carrying out a command.
-/

set_option autoImplicit false
set_option relaxedAutoImplicit false

namespace DiagramMigrations.Console

/-- Carries out a command on a disk. -/
def Command.run {m : Type → Type} [Monad m] (disk : Disk m) (colours : Bool) (now : Timestamp) :
    Command → m Session
  | generate arguments => Console.generate disk colours now arguments
  | validate diagram => Console.validate disk colours diagram
  | info diagram => Console.info disk colours diagram

end DiagramMigrations.Console
