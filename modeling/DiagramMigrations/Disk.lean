import DiagramMigrations.Failure

/-!
What a compilation asks of a disk. Commands are written for any disk; the one they run on and the
one they are reasoned about differ in the monad.
-/

set_option autoImplicit false
set_option relaxedAutoImplicit false

namespace DiagramMigrations

/-- The operations of a disk: reading a file, asking for a path, creating a directory with all
directories above it, and writing a file. -/
structure Disk (m : Type → Type) where
  read : String → m (Except FileError String)
  isPresent : String → m Bool
  makeDirectories : String → m (Except FileError Unit)
  write : String → String → m (Except FileError Unit)

end DiagramMigrations
