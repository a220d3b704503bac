import DiagramMigrations.Console.ArgumentReader
import DiagramMigrations.Console.Command
import Std.Time.Zoned

/-!
The program: it reads the command line, carries out the command on the disk at hand, and prints what
the command has to say.
-/

set_option autoImplicit false
set_option relaxedAutoImplicit false

namespace DiagramMigrations.Program

open Console

/-- A refusal of the operating system. -/
def fileError : IO.Error → FileError
  | .noFileOrDirectory _ _ _ => .notFound
  | .noSuchThing _ _ _ => .notFound
  | .alreadyExists _ 17 _ => .alreadyExists
  | .inappropriateType _ 20 _ => .notADirectory
  | .inappropriateType _ 21 _ => .isADirectory
  | .permissionDenied _ code details => .other (details ++ " (os error " ++ toString code ++ ")")
  | .otherError code details => .other (details ++ " (os error " ++ toString code ++ ")")
  | error => .other (toString error)

/-- Does something that the operating system may refuse. -/
def attempt {α : Type} (action : IO α) : IO (Except FileError α) := do
  try
    return .ok (← action)
  catch error =>
    return .error (fileError error)

/-- The disk at hand. -/
def disk : Disk IO where
  read path := attempt (IO.FS.readFile path)
  isPresent path := do
    match ← attempt (IO.FS.Handle.mk path .read) with
    | .ok _ => return true
    | .error _ => return false
  makeDirectories path := if path = "" then return .ok () else attempt (IO.FS.createDirAll path)
  write path text := attempt (IO.FS.writeFile path text)

/-- The local time. -/
def localTime : IO Timestamp := do
  let now ← Std.Time.PlainDateTime.now
  let day := Calendar.dayOf? now.date.year now.date.month.val.toNat now.date.day.val.toNat
  return ⟨day.getD 0, now.time.toSeconds.val.toNat, now.time.nanosecond.val.toNat⟩

/-- The variable that holds the path of the settings. -/
def settingsVariable : String := "SCHEMAFORGE_CONFIG"

/-- How the program is called. -/
def usage : String :=
  "Usage: schemaforge [-v...] generate DIAGRAM [-o DIR] [-c FILE] [--timestamp TIME] " ++
    "[--no-enums] [--dry-run]\n" ++
  "       schemaforge [-v...] validate DIAGRAM\n" ++
  "       schemaforge [-v...] info DIAGRAM"

/-- The name and the version of the program. -/
def version : String := "schemaforge 0.1.0"

/-- Answers a command line that is not carried out. -/
def refuse (refusal : Refusal) : IO UInt32 := do
  if refusal = .versionRequested then IO.println version
  else if refusal.isAnswer then IO.println usage
  else IO.eprintln usage
  return refusal.exitCode.toUInt32

/-- Prints a text on its stream. -/
def emit (p : Printed) : IO Unit :=
  match p.stream with
  | .output => IO.print p.text
  | .error => IO.eprint p.text

/-- Carries out a command. -/
def execute (command : Command) : IO UInt32 := do
  let colours ← (← IO.getStdout).isTty
  let session ← command.run disk colours (← localTime)
  session.printed.forM emit
  return session.ending.exitCode.toUInt32

end DiagramMigrations.Program

/-- Runs the program. -/
def main (arguments : List String) : IO UInt32 := do
  let config ← IO.getEnv DiagramMigrations.Program.settingsVariable
  match DiagramMigrations.Console.readArguments config arguments with
  | .ok line => DiagramMigrations.Program.execute line.command
  | .error refusal => DiagramMigrations.Program.refuse refusal
