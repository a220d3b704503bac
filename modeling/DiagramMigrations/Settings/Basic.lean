import DiagramMigrations.Calendar.Timestamp
import DiagramMigrations.Failure
import DiagramMigrations.Text.Blank

/-!
The settings of a compilation, with a default for each of them.
-/

set_option autoImplicit false
set_option relaxedAutoImplicit false

namespace DiagramMigrations

/-- The settings. Without a timestamp, migrations are numbered from the time of the compilation. -/
structure Settings where
  outputDirectory : String := "./generated"
  extension : String := "php"
  enumsDirectory : String := "Enums"
  enumNamespace : String := "App\\Enums"
  generateEnums : Bool := true
  timestamp : Option Timestamp := none
  deriving DecidableEq, Repr

namespace Settings

/-- What is wrong with settings, if anything is: the extension must not be blank or start with a
point, the directory of the enumerations must not be blank or start at the root, and their namespace
must not be blank. -/
def fault? (s : Settings) : Option SettingsFault :=
  if Text.isBlankText s.extension || s.extension.toList.head? = some '.' then
    some (.extension s.extension)
  else if Text.isBlankText s.enumsDirectory || s.enumsDirectory.toList.head? = some '/' then
    some (.enumsDirectory s.enumsDirectory)
  else if Text.isBlankText s.enumNamespace then some .enumNamespace
  else none

/-- Refuses settings that something is wrong with. -/
def check (s : Settings) : Except Failure Unit :=
  match s.fault? with
  | none => .ok ()
  | some fault => .error (.settings none fault)

end Settings

end DiagramMigrations
