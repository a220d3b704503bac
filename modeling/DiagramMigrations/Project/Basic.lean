import DiagramMigrations.Path

/-!
Projects: the files that come out of a compilation, in the order they are written, and the warnings
that go with them.
-/

set_option autoImplicit false
set_option relaxedAutoImplicit false

namespace DiagramMigrations

/-- What a file holds. -/
inductive FileKind
  | migration
  | enumeration
  | enumerationBase
  deriving DecidableEq, Repr

/-- A file of a project, with its path below the output directory. -/
structure OutputFile where
  path : String
  content : String
  kind : FileKind
  deriving DecidableEq, Repr

namespace OutputFile

/-- The name of a file without its directories. -/
def fileName (f : OutputFile) : String :=
  Path.fileName f.path

/-- The size of a file in bytes. -/
def size (f : OutputFile) : Nat :=
  f.content.utf8ByteSize

end OutputFile

/-- A project. -/
structure Project where
  name : String
  files : List OutputFile := []
  warnings : List String := []
  deriving DecidableEq, Repr

namespace Project

/-- The files of a kind. -/
def filesOf (p : Project) (kind : FileKind) : List OutputFile :=
  p.files.filter fun f ↦ f.kind = kind

/-- Whether there are warnings. -/
def hasWarnings (p : Project) : Bool :=
  !p.warnings.isEmpty

/-- The size of all files in bytes. -/
def size (p : Project) : Nat :=
  p.files.foldl (fun bytes f ↦ bytes + f.size) 0

end Project

end DiagramMigrations
