import DiagramMigrations.Calendar.Timestamp

/-!
What a command line asks for, and why one may be refused.
-/

set_option autoImplicit false
set_option relaxedAutoImplicit false

namespace DiagramMigrations.Console

/-- What a generation is asked for. Flags take precedence over the settings in a file. -/
structure GenerateArguments where
  diagram : String
  output : Option String := none
  config : Option String := none
  timestamp : Option Timestamp := none
  noEnums : Bool := false
  dryRun : Bool := false
  deriving DecidableEq, Repr

/-- A command. -/
inductive Command
  | generate (arguments : GenerateArguments)
  | validate (diagram : String)
  | info (diagram : String)
  deriving DecidableEq, Repr

/-- A command line. -/
structure CommandLine where
  verbosity : Nat
  command : Command
  deriving DecidableEq, Repr

/-- Why a command line is not carried out. -/
inductive Refusal
  | helpRequested
  | versionRequested
  | nothingGiven
  | noCommand
  | unknownCommand
  | unknownArgument
  | missingDiagram
  | missingValue
  | surplusValue
  | repeatedArgument
  | badTimestamp
  deriving DecidableEq, Repr

/-- Whether a refusal is what was asked for. -/
def Refusal.isAnswer : Refusal → Bool
  | helpRequested | versionRequested => true
  | _ => false

/-- The exit code of a refusal. -/
def Refusal.exitCode (r : Refusal) : Nat :=
  if r.isAnswer then 0 else 2

end DiagramMigrations.Console
