import DiagramMigrations.Text.CaseMapping
import DiagramMigrations.Text.Words

/-!
Names derived from the free text on a diagram. Tables and columns are named in small words joined by
underscores, classes in capitalised words joined by nothing.
-/

set_option autoImplicit false
set_option relaxedAutoImplicit false

namespace DiagramMigrations.Naming

open Text

/-- A word in lower case. A capital sigma that ends the word becomes a final sigma. -/
def lowerWord : List Char → List Char
  | [] => []
  | [c] => if c = 'Σ' then ['ς'] else lower c
  | c :: rest => lower c ++ lowerWord rest

/-- A word with its first character in upper case and the others in lower case. -/
def capitalWord : List Char → List Char
  | [] => []
  | c :: rest => upper c ++ lowerWord rest

/-- The words in lower case, joined by underscores. -/
def snakeCase (cs : List Char) : List Char :=
  ['_'].intercalate ((words cs).map lowerWord)

/-- The words capitalised and joined. -/
def pascalCase (cs : List Char) : List Char :=
  (words cs).flatMap capitalWord

/-- The database identifier of a display name: `Order Line` becomes `order_line`. -/
def identifier (name : String) : String :=
  String.ofList ((snakeCase name.toList).filter (· ≠ ' '))

/-- The class name of a display name: `order line` becomes `OrderLine`. -/
def className (name : String) : String :=
  String.ofList (pascalCase name.toList)

/-- The column that refers to a table when none is named: `BlogPost` gives `blog_post_id`. -/
def foreignKeyColumn (referenced : String) : String :=
  identifier referenced ++ "_id"

/-- The class of the migration that creates a table: `order line` gives `CreateOrderLineTable`. -/
def migrationClass (table : String) : String :=
  "Create" ++ className (identifier table) ++ "Table"

end DiagramMigrations.Naming
