import DiagramMigrations.Naming
import DiagramMigrations.Php.Literal
import DiagramMigrations.Schema.Basic

/-!
The statements of a creation block, as data and as PHP: columns with their modifiers, indexes,
primary keys, timestamps and foreign keys.
-/

set_option autoImplicit false
set_option relaxedAutoImplicit false

namespace DiagramMigrations.Migration

/-- What a column holds when a row does not say: null, a value written out as it stands, or a
constant of an enumeration class. -/
inductive DefaultCall
  | nullable
  | value (text : String)
  | constant (className literal : String)
  deriving DecidableEq, Repr

/-- The definition of a column. -/
structure ColumnDefinition where
  name : String
  type : ColumnType
  isUnique : Bool
  defaultCall : Option DefaultCall
  isPrimary : Bool
  comment : Option String
  deriving DecidableEq, Repr

/-- The default of a column; a literal of an enumeration column is a constant of its class. -/
def defaultCall? (c : Column) : Option DefaultCall :=
  match c.defaultValue, c.enumeration? with
  | none, _ => none
  | some .null, _ => some .nullable
  | some (.literal text), none => some (.value text)
  | some (.literal text), some name => some (.constant (Naming.className name) text)

/-- The definition of a column of a table whose primary key has `keyCount` columns. A timestamp and
a column without a name have none, and the primary key is declared on a column when it is the only
one. -/
def ColumnDefinition.ofColumn? (keyCount : Nat) (c : Column) : Option ColumnDefinition :=
  if c.isTimestamp || c.isUnnamed then none
  else some {
    name := c.name
    type := c.type
    isUnique := c.isUnique
    defaultCall := defaultCall? c
    isPrimary := c.isPrimaryKey && keyCount == 1
    comment := c.documentation }

/-- The method call for a type. Arguments go to the kinds that accept them, and an enumeration gives
its values. -/
def typeCall (name : String) : ColumnType → String
  | .primitive kind (some size) =>
    if kind.acceptsSize then kind.method ++ "(" ++ Php.quote name ++ ", " ++ size.render ++ ")"
    else kind.method ++ "(" ++ Php.quote name ++ ")"
  | .primitive kind none => kind.method ++ "(" ++ Php.quote name ++ ")"
  | .enumeration e => "enum(" ++ Php.quote name ++ ", " ++ Naming.className e ++ "::values())"

/-- The modifier for a default. -/
def DefaultCall.text : DefaultCall → String
  | nullable => "->nullable()"
  | value text => "->default(" ++ text ++ ")"
  | constant className literal => "->default(" ++ className ++ "::" ++ literal ++ ")"

/-- The statement that defines a column. -/
def ColumnDefinition.text (d : ColumnDefinition) : String :=
  "$table->" ++ typeCall d.name d.type ++
    (if d.isUnique then "->unique()" else "") ++
    (match d.defaultCall with | some call => call.text | none => "") ++
    (if d.isPrimary then "->primary()" else "") ++
    (match d.comment with | some text => "->comment(" ++ Php.quote text ++ ")" | none => "") ++ ";"

/-- A statement of a creation block. -/
inductive Statement
  | column (definition : ColumnDefinition)
  | index (column : String)
  | primaryKey (columns : List String)
  | timestamps
  deriving DecidableEq, Repr

/-- The text of a statement. -/
def Statement.text : Statement → String
  | column definition => definition.text
  | index name => "$table->index(" ++ Php.quote name ++ ");"
  | primaryKey names => "$table->primary(" ++ Php.textList names ++ ");"
  | timestamps => "$table->timestamps();"

/-- The statements for a column: its definition, and its index if it wants one. -/
def columnStatements (keyCount : Nat) (c : Column) : List Statement :=
  match ColumnDefinition.ofColumn? keyCount c with
  | none => []
  | some definition => .column definition :: if c.wantsIndex then [.index c.name] else []

/-- The statement for a primary key of several columns. -/
def compositeKey? (columns : List String) : Option Statement :=
  if 2 ≤ columns.length then some (.primaryKey columns) else none

/-- A foreign key: a column of the table that is created, and a column of the table it refers to. -/
structure ForeignKey where
  column : String
  referencedTable : String
  referencedColumn : String
  deriving DecidableEq, Repr

/-- What happens to a row when the row it refers to is deleted. -/
def onDelete : String := "cascade"

namespace ForeignKey

/-- The foreign key of an association, given the name of the referenced table. -/
def ofAssociation (a : Association) (referencedTable : String) : ForeignKey :=
  ⟨a.referencingColumn, referencedTable, a.referencedColumn⟩

/-- The first line of a foreign key. -/
def head (k : ForeignKey) : String :=
  "$table->foreign(" ++ Php.quote k.column ++ ")"

/-- The calls that follow, each on a line of its own. -/
def chain (k : ForeignKey) : List String := [
  "->references(" ++ Php.quote k.referencedColumn ++ ")",
  "->on(" ++ Php.quote k.referencedTable ++ ")",
  "->onDelete(" ++ Php.quote onDelete ++ ");"]

end ForeignKey

end DiagramMigrations.Migration
