/-!
Events of the journal: what a compilation does, step by step, each with a level and named fields.
-/

set_option autoImplicit false
set_option relaxedAutoImplicit false

namespace DiagramMigrations.Journal

/-- How much an event matters. -/
inductive Level
  | error
  | warn
  | info
  | debug
  | trace
  deriving DecidableEq, Repr

namespace Level

/-- The name of a level. -/
def name : Level → String
  | error => "error"
  | warn => "warn"
  | info => "info"
  | debug => "debug"
  | trace => "trace"

/-- The least level that is shown when more output has been asked for a number of times. -/
def ofVerbosity : Nat → Level
  | 0 => warn
  | 1 => info
  | 2 => debug
  | _ => trace

end Level

/-- An event. -/
structure Event where
  level : Level
  message : String
  fields : List (String × String) := []
  deriving DecidableEq, Repr

end DiagramMigrations.Journal
