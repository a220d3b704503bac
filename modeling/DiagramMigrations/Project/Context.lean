import DiagramMigrations.EnumClass.Registry
import DiagramMigrations.Migration.Basic
import DiagramMigrations.Path
import DiagramMigrations.Schema.Order
import DiagramMigrations.Settings.Basic

/-!
What is worked out once for a compilation: the tables in the order of their creation, positions by
id, the registry of enumerations, and the names of the files.
-/

set_option autoImplicit false
set_option relaxedAutoImplicit false

namespace DiagramMigrations

/-- The context of a compilation. `tables` are in the order of their creation; `positions` finds a
table by its id, and `outgoingPositions` the associations by the id of the table that holds the
foreign key. -/
structure Context where
  settings : Settings
  name : String
  tables : List Table
  positions : List (String × Nat)
  associations : List Association
  outgoingPositions : List (String × List Nat)
  enumerations : List Enumeration
  registry : EnumRegistry
  start : Timestamp
  deriving DecidableEq, Repr

namespace Context

/-- The positions of the tables by id. Of tables with the same id the last one counts. -/
def positionsOf (tables : List Table) : List (String × Nat) :=
  (tables.zipIdx.map fun (t, i) ↦ (t.id, i)).reverse

/-- Adds a position to those of a key. -/
def addPosition (key : String) (i : Nat) : List (String × List Nat) → List (String × List Nat)
  | [] => [(key, [i])]
  | (k, positions) :: rest =>
    if k = key then (k, positions ++ [i]) :: rest else (k, positions) :: addPosition key i rest

/-- The positions of the associations, by the id of the referencing table. -/
def outgoingPositionsOf (associations : List Association) : List (String × List Nat) :=
  associations.zipIdx.foldl (fun index (a, i) ↦ addPosition a.referencingTable i index) []

/-- The context for a schema. Migrations are numbered from the time in the settings, or from `now`.
-/
def ofSchema (settings : Settings) (now : Timestamp) (s : Schema) : Except Failure Context := do
  let order ← dependencyOrder s.tables s.associations
  let tables := order.filterMap fun i ↦ s.tables[i]?
  return {
    settings
    name := s.name
    tables
    positions := positionsOf tables
    associations := s.associations
    outgoingPositions := outgoingPositionsOf s.associations
    enumerations := s.enumerations
    registry := EnumRegistry.ofSchema s
    start := settings.timestamp.getD now }

/-- The table of an id. -/
def table? (c : Context) (id : String) : Option Table := do
  let i ← c.positions.lookup id
  c.tables[i]?

/-- The associations in which a table holds the foreign key. -/
def outgoing (c : Context) (table : String) : List Association :=
  ((c.outgoingPositions.lookup table).getD []).filterMap fun i ↦ c.associations[i]?

/-- The database name of the table that an association refers to. -/
def referencedName? (c : Context) (a : Association) : Option String :=
  (c.table? a.referencedTable).map fun t ↦ Naming.identifier t.name

/-- The foreign keys of a table. -/
def foreignKeys (c : Context) (t : Table) : List Migration.ForeignKey :=
  (c.outgoing t.id).filterMap fun a ↦
    (c.referencedName? a).map (Migration.ForeignKey.ofAssociation a)

/-- The migration of a table. -/
def migration (c : Context) (t : Table) : Migration :=
  .ofTable t (c.foreignKeys t)

/-- The token of the migration at a position: a second for each position after the start. Where the
time is not told any more, it is the token of the start. -/
def token (c : Context) (position : Nat) : String :=
  ((c.start.addSeconds? position).getD c.start).token

/-- The name of the file for the migration at a position. -/
def migrationFile (c : Context) (position : Nat) (table : String) : String :=
  c.token position ++ "_create_" ++ Naming.identifier table ++ "_table." ++ c.settings.extension

/-- The full name of the class of an enumeration. -/
def enumImport (c : Context) (enumeration : String) : String :=
  Migration.enumImport c.settings.enumNamespace enumeration

/-- The path of the file for a class of constants. -/
def enumPath (c : Context) (className : String) : String :=
  Path.join c.settings.enumsDirectory (className ++ "." ++ c.settings.extension)

end Context

end DiagramMigrations
