/-!
Paths. A path is read as parts between slashes; empty parts and the part `.` lead nowhere, except
that a path may begin with `.` to say that it is relative.
-/

set_option autoImplicit false
set_option relaxedAutoImplicit false

namespace DiagramMigrations.Path

/-- The parts of a path. -/
def parts (path : String) : List String :=
  (path.toList.splitOn '/').map String.ofList

/-- Whether a path begins at the root. -/
def isAbsolute (path : String) : Bool :=
  path.toList.head? = some '/'

/-- A path that continues from a base; an absolute one does not need the base. -/
def join (base path : String) : String :=
  if isAbsolute path then path
  else if base = "" ∨ base.toList.getLast? = some '/' then base ++ path
  else base ++ "/" ++ path

/-- Whether a part leads nowhere. -/
def isIdle (part : String) : Bool :=
  part = "" || part = "."

/-- Parts up to the last one that leads anywhere. -/
def dropIdle (parts : List String) : List String :=
  (parts.reverse.dropWhile isIdle).reverse

/-- The path above a path, if there is one: above a single name it is the empty path. -/
def parent? (path : String) : Option String :=
  match parts path with
  | [] => none
  | first :: rest =>
    match dropIdle rest with
    | [] => if first = "" then none else some ""
    | steps =>
      let above := dropIdle steps.dropLast
      if first = "" ∧ above = [] then some "/" else some ("/".intercalate (first :: above))

/-- The name that a path ends in, if it ends in one. -/
def fileName (path : String) : String :=
  match (parts path).reverse.find? fun part ↦ !isIdle part with
  | none | some ".." => ""
  | some name => name

/-- At most `n` paths: a path and those above it, the nearest first. -/
def lineage : Nat → String → List String
  | 0, _ => []
  | n + 1, path =>
    if path = "" then []
    else path :: match parent? path with
      | none => []
      | some above => lineage n above

/-- A path and all paths above it, the nearest first. A path is longer than the path above it. -/
def ancestors (path : String) : List String :=
  lineage path.length path

end DiagramMigrations.Path
