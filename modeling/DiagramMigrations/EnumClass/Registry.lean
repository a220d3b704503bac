import DiagramMigrations.Schema.Basic

/-!
The registry of enumerations: an entry for each name, in the order of first registration, and an
index of the positions. A later enumeration of a name takes the place of the earlier one.
-/

set_option autoImplicit false
set_option relaxedAutoImplicit false

namespace DiagramMigrations

/-- The literals of each enumeration, by name. -/
structure EnumRegistry where
  entries : List (String × List String) := []
  index : List (String × Nat) := []
  deriving DecidableEq, Repr

namespace EnumRegistry

/-- Whether a name is registered. -/
def contains (r : EnumRegistry) (name : String) : Bool :=
  (r.index.lookup name).isSome

/-- Registers a name with its literals. -/
def insert (r : EnumRegistry) (name : String) (literals : List String) : EnumRegistry :=
  match r.index.lookup name with
  | some i => { r with entries := r.entries.modify i fun entry ↦ (entry.1, literals) }
  | none =>
    { entries := r.entries ++ [(name, literals)], index := r.index ++ [(name, r.entries.length)] }

/-- Registers an enumeration. -/
def register (r : EnumRegistry) (e : Enumeration) : EnumRegistry :=
  r.insert e.name e.literalNames

/-- The registry of a schema. -/
def ofSchema (s : Schema) : EnumRegistry :=
  s.enumerations.foldl register {}

/-- The number of registered names. -/
def size (r : EnumRegistry) : Nat :=
  r.entries.length

/-- The registered names, in order. -/
def names (r : EnumRegistry) : List String :=
  r.entries.map Prod.fst

/-- The literals of a name. -/
def literals? (r : EnumRegistry) (name : String) : Option (List String) := do
  let i ← r.index.lookup name
  let entry ← r.entries[i]?
  return entry.2

/-- The constants of a name with their values; a constant has its own name as its value. -/
def pairs? (r : EnumRegistry) (name : String) : Option (List (String × String)) :=
  (r.literals? name).map fun literals ↦ literals.map fun l ↦ (l, l)

/-- The constants of a name. -/
def keys? (r : EnumRegistry) (name : String) : Option (List String) :=
  (r.pairs? name).map fun pairs ↦ pairs.map Prod.fst

/-- The values of the constants of a name. -/
def values? (r : EnumRegistry) (name : String) : Option (List String) :=
  (r.pairs? name).map fun pairs ↦ pairs.map Prod.snd

/-- Whether a text is a constant of a name. -/
def isKey (r : EnumRegistry) (name text : String) : Bool :=
  ((r.keys? name).getD []).contains text

/-- Whether a text is the value of a constant of a name. -/
def isValue (r : EnumRegistry) (name text : String) : Bool :=
  ((r.values? name).getD []).contains text

/-- Whether a text is a constant of a name, or the value of one. -/
def accepts (r : EnumRegistry) (name text : String) : Bool :=
  r.isKey name text || r.isValue name text

end EnumRegistry

end DiagramMigrations
