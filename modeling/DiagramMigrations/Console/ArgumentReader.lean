import DiagramMigrations.Calendar.Reader
import DiagramMigrations.Console.Arguments

/-!
Reading a command line. Arguments are taken from left to right. A value that stands by itself is
judged when the next argument is taken, or at the end; an argument that is not known is refused
before that.
-/

set_option autoImplicit false
set_option relaxedAutoImplicit false

namespace DiagramMigrations.Console

/-- An argument by its form. -/
inductive Token
  | escape
  | long (name : String) (value : Option String)
  | short (letters : List Char)
  | plain (text : String)
  deriving DecidableEq, Repr

/-- The form of an argument: `--` ends the options, and a single `-` is a value. -/
def Token.ofText (text : String) : Token :=
  match text.toList with
  | ['-', '-'] => .escape
  | '-' :: '-' :: cs =>
    let name := String.ofList (cs.takeWhile (· ≠ '='))
    match cs.dropWhile (· ≠ '=') with
    | [] => .long name none
    | _ :: value => .long name (some (String.ofList value))
  | '-' :: c :: cs => .short (c :: cs)
  | _ => .plain text

/-- What takes a value. -/
inductive Slot
  | diagram
  | output
  | config
  | timestamp
  deriving DecidableEq, Repr

/-- What takes none. -/
inductive Flag
  | verbose
  | help
  | version
  | noEnums
  | dryRun
  deriving DecidableEq, Repr

/-- An option of a command. -/
inductive Parameter
  | flag (flag : Flag)
  | slot (slot : Slot)
  deriving DecidableEq, Repr

/-- The place of an option on a command line: before the command, or behind one. -/
inductive Scope
  | top
  | generate
  | inspect
  deriving DecidableEq, Repr

namespace Scope

/-- The long names of the options. -/
def longNames : Scope → List (String × Parameter)
  | top => [("verbose", .flag .verbose), ("help", .flag .help), ("version", .flag .version)]
  | generate => [
      ("output", .slot .output), ("config", .slot .config), ("timestamp", .slot .timestamp),
      ("no-enums", .flag .noEnums), ("dry-run", .flag .dryRun),
      ("verbose", .flag .verbose), ("help", .flag .help)]
  | inspect => [("verbose", .flag .verbose), ("help", .flag .help)]

/-- The letters of the options. -/
def letters : Scope → List (Char × Parameter)
  | top => [('v', .flag .verbose), ('h', .flag .help), ('V', .flag .version)]
  | generate => [
      ('o', .slot .output), ('c', .slot .config), ('v', .flag .verbose), ('h', .flag .help)]
  | inspect => [('v', .flag .verbose), ('h', .flag .help)]

end Scope

/-- What has been taken so far. -/
structure Draft where
  verbosity : Option Nat := none
  diagram : Option String := none
  output : Option String := none
  config : Option String := none
  timestamp : Option Timestamp := none
  noEnums : Bool := false
  dryRun : Bool := false
  deriving DecidableEq, Repr

/-- A slot that has been named, and its value if that has been given. -/
abbrev Pending := Option (Slot × Option String)

/-- Where the reader stands: the next argument may be the value of the pending slot, and behind `--`
there are no options. -/
structure Reader where
  draft : Draft := {}
  pending : Pending := none
  awaiting : Bool := false
  escaped : Bool := false
  deriving DecidableEq, Repr

/-- The most that verbosity is counted to. -/
def greatestVerbosity : Nat := 255

namespace Draft

/-- Refuses to fill what is filled. -/
def unlessFilled {α : Type} (slot : Option α) : Except Refusal Unit :=
  if slot.isSome then .error .repeatedArgument else .ok ()

/-- A path must not be empty. -/
def readPath (value : String) : Except Refusal String :=
  if value = "" then .error .missingValue else .ok value

/-- A time in one of the layouts of a command line. -/
def readTimestamp (value : String) : Except Refusal Timestamp :=
  match Calendar.parseStrict? value with
  | some timestamp => .ok timestamp
  | none => .error .badTimestamp

/-- Fills a slot. -/
def fill (d : Draft) (slot : Slot) (value : String) : Except Refusal Draft := do
  match slot with
  | .diagram =>
    unlessFilled d.diagram
    return { d with diagram := ← readPath value }
  | .output =>
    unlessFilled d.output
    return { d with output := ← readPath value }
  | .config =>
    unlessFilled d.config
    return { d with config := ← readPath value }
  | .timestamp =>
    unlessFilled d.timestamp
    return { d with timestamp := ← readTimestamp value }

/-- Takes a flag. -/
def raise (d : Draft) (flag : Flag) : Except Refusal Draft :=
  match flag with
  | .verbose => .ok { d with verbosity := some (min greatestVerbosity (d.verbosity.getD 0 + 1)) }
  | .help => .error .helpRequested
  | .version => .error .versionRequested
  | .noEnums => if d.noEnums then .error .repeatedArgument else .ok { d with noEnums := true }
  | .dryRun => if d.dryRun then .error .repeatedArgument else .ok { d with dryRun := true }

end Draft

namespace Reader

/-- Judges the pending value. -/
def settle (r : Reader) : Except Refusal Reader := do
  match r.pending with
  | none => return { r with awaiting := false }
  | some (_, none) => throw .missingValue
  | some (slot, some value) =>
    return { r with draft := ← r.draft.fill slot value, pending := none, awaiting := false }

/-- Takes a flag, after the pending value. -/
def takeFlag (r : Reader) (flag : Flag) : Except Refusal Reader := do
  let r ← r.settle
  return { r with draft := ← r.draft.raise flag }

/-- Takes an option with the value attached to it, if there is one. -/
def takeSlot (r : Reader) (slot : Slot) (attached : Option String) : Except Refusal Reader := do
  let r ← r.settle
  match attached with
  | some value => return { r with draft := ← r.draft.fill slot value }
  | none => return { r with pending := some (slot, none), awaiting := true }

/-- Takes an option by its long name. -/
def takeLong (scope : Scope) (r : Reader) (name : String) (value : Option String) :
    Except Refusal Reader :=
  match scope.longNames.lookup name, value with
  | none, _ => .error .unknownArgument
  | some (.slot slot), value => r.takeSlot slot value
  | some (.flag flag), none => r.takeFlag flag
  | some (.flag _), some _ => .error .surplusValue

/-- The value that is attached to a letter; an equals sign may stand before it. -/
def attached? : List Char → Option String
  | [] => none
  | '=' :: value => some (String.ofList value)
  | value => some (String.ofList value)

/-- Takes options by their letters, up to one that takes a value. -/
def takeShort (scope : Scope) (r : Reader) : List Char → Except Refusal Reader
  | [] => .ok r
  | letter :: rest =>
    match scope.letters.lookup letter with
    | none => .error .unknownArgument
    | some (.slot slot) => r.takeSlot slot (attached? rest)
    | some (.flag flag) => do (← r.takeFlag flag).takeShort scope rest

/-- Whether the diagram has been named. -/
def hasDiagram (r : Reader) : Bool :=
  r.draft.diagram.isSome || (r.pending.map Prod.fst) = some .diagram

/-- Takes an argument that is no option and no value of one: it names the diagram. -/
def takePlace (r : Reader) (text : String) : Except Refusal Reader := do
  if r.hasDiagram then throw .unknownArgument
  let r ← r.settle
  return { r with pending := some (.diagram, some text) }

/-- Takes an argument that is no option. -/
def takePlain (r : Reader) (text : String) : Except Refusal Reader :=
  match r.awaiting, r.pending with
  | true, some (slot, _) => .ok { r with pending := some (slot, some text), awaiting := false }
  | _, _ => r.takePlace text

/-- Takes an argument behind a command. -/
def take (scope : Scope) (r : Reader) (text : String) : Except Refusal Reader :=
  if r.escaped then r.takePlace text
  else
    match Token.ofText text with
    | .escape => .ok { r with escaped := true }
    | .long name value => r.takeLong scope name value
    | .short letters => r.takeShort scope letters
    | .plain text => r.takePlain text

end Reader

/-- The names of the commands, apart from the one for help. -/
def commandNames : List String := ["generate", "validate", "info"]

/-- The scope of a command. -/
def Scope.ofCommand (name : String) : Scope :=
  if name = "generate" then .generate else .inspect

/-- Fills in the path of the settings that the environment gives. -/
def Draft.withEnvironment (scope : Scope) (config : Option String) (d : Draft) :
    Except Refusal Draft :=
  match scope, d.config, config with
  | .generate, none, some path => d.fill .config path
  | _, _, _ => .ok d

/-- The command of a name. -/
def Draft.command (d : Draft) (name diagram : String) : Command :=
  if name = "generate" then
    .generate {
      diagram
      output := d.output
      config := d.config
      timestamp := d.timestamp
      noEnums := d.noEnums
      dryRun := d.dryRun }
  else if name = "validate" then .validate diagram
  else .info diagram

/-- Reads the arguments behind a command. -/
def readCommand (name : String) (config : Option String) (arguments : List String) :
    Except Refusal (Option Nat × Command) := do
  let scope := Scope.ofCommand name
  let reader ← arguments.foldlM (Reader.take scope) {}
  let draft ← (← reader.settle).draft.withEnvironment scope config
  match draft.diagram with
  | none => throw .missingDiagram
  | some diagram => return (draft.verbosity, draft.command name diagram)

/-- The answer to a call for help on the commands named behind it. -/
def helpOn : List String → Refusal
  | [] => .helpRequested
  | [name] => if name ∈ commandNames ∨ name = "help" then .helpRequested else .unknownCommand
  | _ => .unknownCommand

/-- Refuses an argument behind a `--` that stands before any command. -/
def refuseEscaped (draft : Draft) : List String → Refusal
  | [] => if draft.verbosity.isNone then .nothingGiven else .noCommand
  | text :: _ =>
    if text ∈ commandNames ∨ text = "help" then .unknownArgument else .unknownCommand

/-- Reads the arguments before a command, the command, and the arguments behind it. Verbosity counts
where it is given last. -/
def readFrom (config : Option String) (r : Reader) : List String → Except Refusal CommandLine
  | [] => .error (refuseEscaped r.draft [])
  | text :: rest => do
    if text = "help" then throw (helpOn rest)
    else if text ∈ commandNames then
      let (verbosity, command) ← readCommand text config rest
      return { verbosity := (verbosity <|> r.draft.verbosity).getD 0, command }
    else
      match Token.ofText text with
      | .escape => throw (refuseEscaped r.draft rest)
      | .plain _ => throw .unknownCommand
      | .long name value => readFrom config (← r.takeLong .top name value) rest
      | .short letters => readFrom config (← r.takeShort .top letters) rest

/-- Reads a command line; `config` is the path of the settings that the environment gives. -/
def readArguments (config : Option String) (arguments : List String) : Except Refusal CommandLine :=
  readFrom config {} arguments

end DiagramMigrations.Console
