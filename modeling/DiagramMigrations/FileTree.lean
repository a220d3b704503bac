import DiagramMigrations.Disk
import DiagramMigrations.Path

/-!
Trees of files and directories, kept as a map from locations to entries. A path is followed part by
part from the current directory or from the root; every location on the way has to be a directory.
-/

set_option autoImplicit false
set_option relaxedAutoImplicit false

namespace DiagramMigrations

/-- The name of an entry and the names of the directories it lies in, innermost first. The root has
none. -/
abbrev Location := List String

/-- What lies at a location. -/
inductive Entry
  | directory
  | file (text : String)
  deriving DecidableEq, Repr

/-- A tree of files and directories, and the directory that relative paths start from. -/
structure FileTree where
  entries : List (Location × Entry) := []
  current : Location := []
  deriving DecidableEq, Repr

namespace FileTree

/-- The entry at a location; the root is always a directory. -/
def entry? (t : FileTree) : Location → Option Entry
  | [] => some .directory
  | here => t.entries.lookup here

/-- Puts an entry at a location. -/
def put (t : FileTree) (here : Location) (entry : Entry) : FileTree :=
  { t with entries := t.entries.filter (fun e ↦ e.1 ≠ here) ++ [(here, entry)] }

/-- Refuses a location that is no directory. -/
def enter (t : FileTree) (here : Location) : Except FileError Unit :=
  match t.entry? here with
  | some .directory => .ok ()
  | some (.file _) => .error .notADirectory
  | none => .error .notFound

/-- The most bytes that a name may have. -/
def longestName : Nat := 255

/-- The location of a name in a directory. -/
def child (here : Location) (name : String) : Except FileError Location :=
  if longestName < name.utf8ByteSize then .error .nameTooLong else .ok (name :: here)

/-- Follows parts of a path from a directory. -/
def walk (t : FileTree) (here : Location) : List String → Except FileError Location
  | [] => .ok here
  | part :: rest => do
    t.enter here
    if Path.isIdle part then t.walk here rest
    else if part = ".." then t.walk here.tail rest
    else t.walk (← child here part) rest

/-- The most bytes that a path may have. -/
def longestPath : Nat := 4095

/-- Where a path starts, if it can be a path at all. -/
def start (t : FileTree) (path : String) : Except FileError Location :=
  if path.toList.contains '\x00' then
    .error (.other "file name contained an unexpected NUL byte")
  else if path = "" then .error .notFound
  else if longestPath < path.utf8ByteSize then .error .nameTooLong
  else if Path.isAbsolute path then .ok []
  else .ok t.current

/-- The entry that a path leads to. -/
def find (t : FileTree) (path : String) : Except FileError Entry := do
  match t.entry? (← t.walk (← t.start path) (Path.parts path)) with
  | some entry => return entry
  | none => throw .notFound

/-- Parts without the slashes at their end. -/
def dropSlashes (parts : List String) : List String :=
  (parts.reverse.dropWhile fun part ↦ part = "").reverse

/-- Where a path wants an entry to be: the directory, and the last part of the path. -/
def target (t : FileTree) (path : String) : Except FileError (Location × String) := do
  let parts := dropSlashes (Path.parts path)
  let here ← t.walk (← t.start path) parts.dropLast
  t.enter here
  return (here, parts.getLastD ".")

/-- Whether a part names an entry of the directory it is read in. -/
def isName (part : String) : Bool :=
  part ≠ "." && part ≠ ".."

/-- The text of a file. -/
def read (t : FileTree) (path : String) : Except FileError String := do
  match ← t.find path with
  | .file text => return text
  | .directory => throw .isADirectory

/-- Whether a path leads to anything. -/
def isPresent (t : FileTree) (path : String) : Bool :=
  (t.find path).isOk

/-- Whether a path leads to a directory. -/
def isDirectory (t : FileTree) (path : String) : Bool :=
  match t.find path with
  | .ok .directory => true
  | _ => false

/-- Creates a directory in a directory that is there. -/
def makeDirectory (t : FileTree) (path : String) : Except FileError FileTree := do
  let (here, name) ← t.target path
  if !isName name then throw .alreadyExists
  let here ← child here name
  if (t.entry? here).isSome then throw .alreadyExists
  return t.put here .directory

/-- Writes a file in a directory that is there. A path that ends with a slash is for directories. -/
def write (t : FileTree) (path text : String) : Except FileError FileTree := do
  let (here, name) ← t.target path
  if !isName name || path.toList.getLast? = some '/' then throw .isADirectory
  let here ← child here name
  if t.entry? here = some .directory then throw .isADirectory
  return t.put here (.file text)

/-- A directory that could not be created does no harm if it is there. -/
def unlessDirectory (t : FileTree) (path : String) (error : FileError) :
    Except FileError Unit × FileTree :=
  if t.isDirectory path then (.ok (), t) else (.error error, t)

/-- Creates the first directory of a lineage, after those that follow if it lies in one that is not
there. -/
def makeLineage (t : FileTree) : List String → Except FileError Unit × FileTree
  | [] => (.ok (), t)
  | path :: above =>
    match t.makeDirectory path with
    | .ok t => (.ok (), t)
    | .error .notFound =>
      match t.makeLineage above with
      | (.error error, t) => (.error error, t)
      | (.ok (), t) =>
        match t.makeDirectory path with
        | .ok t => (.ok (), t)
        | .error error => t.unlessDirectory path error
    | .error error => t.unlessDirectory path error

/-- Creates a directory with all directories above it. Those that were created stay when one cannot
be. -/
def makeDirectories (t : FileTree) (path : String) : Except FileError Unit × FileTree :=
  t.makeLineage (Path.ancestors path)

/-- A file tree as a disk. -/
def disk : Disk (StateM FileTree) where
  read path t := (t.read path, t)
  isPresent path t := (t.isPresent path, t)
  makeDirectories path t := t.makeDirectories path
  write path text t :=
    match t.write path text with
    | .ok t => (.ok (), t)
    | .error error => (.error error, t)

end FileTree

end DiagramMigrations
