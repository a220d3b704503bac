import DiagramMigrations.Json.Fault
import DiagramMigrations.Json.Value
import DiagramMigrations.Text.Quoted

/-!
What can be wrong with a diagram document: its text, or what the text says.
-/

set_option autoImplicit false
set_option relaxedAutoImplicit false

namespace DiagramMigrations.Diagram

/-- The kind of value that stands where another is expected. -/
inductive Found
  | null
  | boolean (value : Bool)
  | number (value : Json.Number)
  | text (value : String)
  | sequence
  | map
  deriving DecidableEq, Repr

namespace Found

/-- The kind of a value. -/
def ofJson : Json → Found
  | .null => null
  | .boolean value => boolean value
  | .number value => number value
  | .text value => text value
  | .array _ => sequence
  | .object _ => map

/-- The wording of what stands there. -/
def message : Found → String
  | null => "null"
  | boolean true => "boolean `true`"
  | boolean false => "boolean `false`"
  | number (.integer value) => "integer `" ++ toString value ++ "`"
  | number (.float value) => "floating point `" ++ value.text ++ "`"
  | text value => "string " ++ Text.quoted value
  | sequence => "sequence"
  | map => "map"

end Found

/-- A complaint about what a document says. -/
inductive Complaint
  | wrongType (found : Found) (expected : String)
  | wrongLength (length : Nat) (expected : String)
  | missingField (name : String)
  | repeatedField (name : String)
  deriving DecidableEq, Repr

namespace Complaint

/-- A value that is not of the expected type. -/
def refuse (value : Json) (expected : String) : Complaint :=
  .wrongType (.ofJson value) expected

/-- The wording of a complaint. -/
def message : Complaint → String
  | wrongType found expected => "invalid type: " ++ found.message ++ ", expected " ++ expected
  | wrongLength length expected =>
    "invalid length " ++ toString length ++ ", expected " ++ expected
  | missingField name => "missing field `" ++ name ++ "`"
  | repeatedField name => "duplicate field `" ++ name ++ "`"

end Complaint

/-- Why a document cannot be read. -/
inductive ReadError
  | text (fault : Json.Fault)
  | content (complaint : Complaint)
  deriving DecidableEq, Repr

/-- The wording of the reason. -/
def ReadError.message : ReadError → String
  | text fault => fault.message
  | content complaint => complaint.message

end DiagramMigrations.Diagram
