import DiagramMigrations.Column.Default
import DiagramMigrations.Column.Kind
import DiagramMigrations.Column.Size

/-!
Schemas: tables with typed columns, enumerations, and the associations that become foreign keys.
-/

set_option autoImplicit false
set_option relaxedAutoImplicit false

namespace DiagramMigrations

/-- The type of a column: a kind of the vocabulary, or the literals of an enumeration. -/
inductive ColumnType
  | primitive (kind : ColumnKind) (size : Option Size)
  | enumeration (name : String)
  deriving DecidableEq, Repr

/-- The type of last resort. -/
def ColumnType.text : ColumnType :=
  .primitive .text none

/-- A column of a table. -/
structure Column where
  name : String
  type : ColumnType
  isPrimaryKey : Bool := false
  isUnique : Bool := false
  defaultValue : Option Default := none
  documentation : Option String := none
  classification : String := ""
  deriving DecidableEq, Repr

namespace Column

/-- Whether a column keeps the time of creation or of the last change, which one statement of the
schema builder covers for both. -/
def isTimestamp (c : Column) : Bool :=
  c.name = "created_at" || c.name = "updated_at"

/-- Whether a column has no name to speak of. -/
def isUnnamed (c : Column) : Bool :=
  Text.isBlankText c.name

/-- Whether the classification asks for an index. -/
def wantsIndex (c : Column) : Bool :=
  Text.equalIgnoringAsciiCase c.classification "index" ||
    Text.equalIgnoringAsciiCase c.classification "in"

/-- Whether the classification declares a foreign key: `fk`, `fk:` or `foreign` in front of it. -/
def hasForeignKeyTag (c : Column) : Bool :=
  let tag := (Text.asciiLowered c.classification).toList
  tag = "fk".toList || "fk:".toList.isPrefixOf tag || "foreign".toList.isPrefixOf tag

/-- The enumeration whose literals a column takes. -/
def enumeration? (c : Column) : Option String :=
  match c.type with
  | .enumeration name => some name
  | .primitive _ _ => none

end Column

/-- A table. -/
structure Table where
  id : String
  name : String
  columns : List Column := []
  deriving DecidableEq, Repr

namespace Table

/-- The columns of the primary key, in order. -/
def primaryKey (t : Table) : List Column :=
  t.columns.filter Column.isPrimaryKey

/-- Whether a table has a timestamp column. -/
def hasTimestamps (t : Table) : Bool :=
  t.columns.any Column.isTimestamp

/-- The first column of a name. -/
def column? (t : Table) (name : String) : Option Column :=
  t.columns.find? fun c ↦ c.name = name

/-- The enumerations of the columns, each once, in the order of their first use. -/
def enumerations (t : Table) : List String :=
  (t.columns.filterMap Column.enumeration?).foldl
    (fun names name ↦ if name ∈ names then names else names ++ [name]) []

end Table

/-- A literal of an enumeration. -/
structure Literal where
  name : String
  documentation : Option String := none
  deriving DecidableEq, Repr

/-- An enumeration. -/
structure Enumeration where
  id : String
  name : String
  literals : List Literal := []
  deriving DecidableEq, Repr

/-- The names of the literals. -/
def Enumeration.literalNames (e : Enumeration) : List String :=
  e.literals.map Literal.name

/-- An association: a column of one table refers to a column of another, or of the same. -/
structure Association where
  id : String
  referencingTable : String
  referencingColumn : String
  referencedTable : String
  referencedColumn : String
  deriving DecidableEq, Repr

/-- A schema. Tables are referred to by id, enumerations by name. -/
structure Schema where
  name : String := ""
  tables : List Table := []
  enumerations : List Enumeration := []
  associations : List Association := []
  deriving DecidableEq, Repr

namespace Schema

/-- The first table of an id. -/
def table? (s : Schema) (id : String) : Option Table :=
  s.tables.find? fun t ↦ t.id = id

/-- The first enumeration of a name. -/
def enumeration? (s : Schema) (name : String) : Option Enumeration :=
  s.enumerations.find? fun e ↦ e.name = name

/-- The associations in which a table holds the foreign key. -/
def outgoing (s : Schema) (table : String) : List Association :=
  s.associations.filter fun a ↦ a.referencingTable = table

/-- Whether there is anything to create. -/
def hasTables (s : Schema) : Bool :=
  !s.tables.isEmpty

end Schema

end DiagramMigrations
