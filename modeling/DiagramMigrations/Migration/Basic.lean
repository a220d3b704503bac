import DiagramMigrations.Migration.Statement
import DiagramMigrations.Php.Layout

/-!
Migrations. A migration creates one table and can drop it again; it imports the enumeration classes
that its columns mention.
-/

set_option autoImplicit false
set_option relaxedAutoImplicit false

namespace DiagramMigrations

/-- The body of a creation: statements, and after them the foreign keys. -/
structure CreationBlock where
  statements : List Migration.Statement
  foreignKeys : List Migration.ForeignKey
  deriving DecidableEq, Repr

/-- The statements for a table: its columns in order, the key if it has several columns, and the
timestamps. -/
def Table.statements (t : Table) : List Migration.Statement :=
  t.columns.flatMap (Migration.columnStatements t.primaryKey.length) ++
    (Migration.compositeKey? (t.primaryKey.map Column.name)).toList ++
    if t.hasTimestamps then [.timestamps] else []

/-- A migration. -/
structure Migration where
  enumerations : List String
  className : String
  tableName : String
  block : CreationBlock
  deriving DecidableEq, Repr

/-- The migration that creates a table with foreign keys. -/
def Migration.ofTable (t : Table) (foreignKeys : List Migration.ForeignKey) : Migration where
  enumerations := t.enumerations
  className := Naming.migrationClass t.name
  tableName := Naming.identifier t.name
  block := ⟨t.statements, foreignKeys⟩

/-- The classes that every migration imports. -/
def Migration.frameworkImports : List String := [
  "Illuminate\\Support\\Facades\\Schema",
  "Illuminate\\Database\\Schema\\Blueprint",
  "Illuminate\\Database\\Migrations\\Migration"]

namespace CreationBlock

/-- The lines of a foreign key, after a blank one unless it comes first in the block. -/
def foreignKeySteps (first : Bool) (k : Migration.ForeignKey) : List Php.Step :=
  (if first then [] else [.blank]) ++ [.line k.head, .indent, .lines k.chain, .outdent]

/-- The layout of a creation. -/
def steps (b : CreationBlock) : List Php.Step :=
  .lines (b.statements.map Migration.Statement.text) ::
    match b.foreignKeys with
    | [] => []
    | k :: rest => foreignKeySteps b.statements.isEmpty k ++ rest.flatMap (foreignKeySteps false)

end CreationBlock

namespace Migration

/-- The class name of an enumeration in a namespace. -/
def enumImport (enumNamespace name : String) : String :=
  enumNamespace ++ "\\" ++ Naming.className name

/-- The classes that a migration imports. -/
def imports (m : Migration) (enumNamespace : String) : List String :=
  m.enumerations.map (enumImport enumNamespace) ++ frameworkImports

/-- The layout of a migration. -/
def steps (m : Migration) (enumNamespace : String) : List Php.Step :=
  let creation : Php.Step := .block
    ("Schema::create(" ++ Php.quote m.tableName ++ ", function (Blueprint $table) \x7b") "\x7d);"
    m.block.steps
  let removal : Php.Step := .line ("Schema::dropIfExists(" ++ Php.quote m.tableName ++ ");")
  [.line "<?php", .blank] ++
    (m.imports enumNamespace).map (fun name ↦ .line ("use " ++ name ++ ";")) ++
    [.blank, .line ("class " ++ m.className ++ " extends Migration"),
      .block "\x7b" "\x7d" [
        .doc "Run the migrations.\n\n@return void",
        .line "public function up()",
        .block "\x7b" "\x7d" [creation],
        .blank,
        .doc "Reverse the migrations.\n\n@return void",
        .line "public function down()",
        .block "\x7b" "\x7d" [removal]]]

/-- The text of a migration. -/
def text (m : Migration) (enumNamespace : String) : String :=
  Php.render (m.steps enumNamespace)

end Migration

end DiagramMigrations
