import DiagramMigrations.Console.Style
import DiagramMigrations.Notice

/-!
What a command prints, and where.
-/

set_option autoImplicit false
set_option relaxedAutoImplicit false

namespace DiagramMigrations.Console

/-- Where a text is printed. -/
inductive Stream
  | output
  | error
  deriving DecidableEq, Repr

/-- A text on a stream. -/
structure Printed where
  stream : Stream
  text : String
  deriving DecidableEq, Repr

/-- A text on the output stream. -/
def print (text : String) : Printed := ⟨.output, text⟩

/-- A line on the output stream. -/
def printLine (text : String) : Printed := ⟨.output, text ++ "\n"⟩

/-- A line on the error stream. -/
def complain (text : String) : Printed := ⟨.error, text ++ "\n"⟩

/-- The line for an error. -/
def errorLine (colours : Bool) (text : String) : Printed :=
  complain (Style.error.paint colours "error:" ++ " " ++ text)

/-- The line for a warning. -/
def warningLine (colours : Bool) (text : String) : Printed :=
  complain (Style.warning.paint colours "warning:" ++ " " ++ text)

/-- The line for a success. -/
def successLine (colours : Bool) (text : String) : Printed :=
  printLine (Style.success.paint colours "✓" ++ " " ++ text)

/-- The line for a suggestion. -/
def hintLine (colours : Bool) (text : String) : Printed :=
  complain ("  " ++ Style.hint.paint colours "hint:" ++ " " ++ text)

/-- The line for a notice. -/
def noticeLine (colours : Bool) (n : Notice) : Printed :=
  match n.kind with
  | .info => successLine colours n.text
  | .error => errorLine colours n.text

/-- What has been printed on a stream. -/
def textOn (stream : Stream) (printed : List Printed) : String :=
  String.join ((printed.filter fun p ↦ p.stream = stream).map Printed.text)

/-- How a command ended: it did its work, the diagram could not be compiled, or something else went
wrong. -/
inductive Ending
  | success
  | aborted
  | failed
  deriving DecidableEq, Repr

/-- The exit code of an ending. -/
def Ending.exitCode : Ending → Nat
  | success => 0
  | aborted | failed => 1

/-- What a command has printed, and how it ended. -/
structure Session where
  printed : List Printed
  ending : Ending
  deriving DecidableEq, Repr

/-- The session of a failure; `context` says what failed. -/
def Session.ofFailure (colours : Bool) (context : String) (text : String) : Session where
  printed := [errorLine colours (context ++ text)]
  ending := .failed

end DiagramMigrations.Console
