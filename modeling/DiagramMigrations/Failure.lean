import DiagramMigrations.Diagram.Complaint

/-!
Why a compilation ends without a result. A failure is about the diagram, about a file, about the
text of a document or about the settings.
-/

set_option autoImplicit false
set_option relaxedAutoImplicit false

namespace DiagramMigrations

/-- A refusal of the operating system. -/
inductive FileError
  | notFound
  | alreadyExists
  | notADirectory
  | isADirectory
  | nameTooLong
  | other (text : String)
  deriving DecidableEq, Repr

/-- The wording of a refusal. -/
def FileError.message : FileError → String
  | notFound => "No such file or directory (os error 2)"
  | alreadyExists => "File exists (os error 17)"
  | notADirectory => "Not a directory (os error 20)"
  | isADirectory => "Is a directory (os error 21)"
  | nameTooLong => "File name too long (os error 36)"
  | other text => text

/-- What is wrong with settings. -/
inductive SettingsFault
  | unreadable (reason : String)
  | extension (text : String)
  | enumsDirectory (text : String)
  | enumNamespace
  deriving DecidableEq, Repr

/-- The wording of what is wrong. -/
def SettingsFault.message : SettingsFault → String
  | unreadable reason => "TOML parse error: " ++ reason
  | extension text =>
    "extension must be a bare file extension such as 'php', got '" ++ text ++ "'"
  | enumsDirectory text => "enums_dir must be a relative directory name, got '" ++ text ++ "'"
  | enumNamespace => "enum_namespace cannot be empty"

/-- Why a compilation fails. -/
inductive Failure
  | validation (text : String)
  | noTables
  | dependencyCycle (tables : List String)
  | unreadableDiagram (path : String) (error : Diagram.ReadError)
  | unreadableFile (path : String) (error : FileError)
  | unwritableFile (path : String) (error : FileError)
  | noDirectory (path : String) (error : FileError)
  | document (error : Diagram.ReadError)
  | settings (origin : Option String) (fault : SettingsFault)
  deriving DecidableEq, Repr

namespace Failure

/-- Whether the diagram itself is at fault. -/
def isValidation : Failure → Bool
  | validation _ | noTables | dependencyCycle _ => true
  | _ => false

/-- Whether a file or a directory is at fault. -/
def isFile : Failure → Bool
  | unreadableFile _ _ | unwritableFile _ _ | noDirectory _ _ => true
  | _ => false

/-- The wording of a failure. -/
def message : Failure → String
  | validation text => "Validation error: " ++ text
  | noTables => "No tables found in the diagram. Classify at least one class as 'Table'."
  | dependencyCycle tables =>
    "Circular foreign-key dependency between tables: " ++ ", ".intercalate tables
  | unreadableDiagram path error => "Failed to parse diagram '" ++ path ++ "': " ++ error.message
  | unreadableFile path error => "Failed to read file '" ++ path ++ "': " ++ error.message
  | unwritableFile path error => "Failed to write file '" ++ path ++ "': " ++ error.message
  | noDirectory path error => "Failed to create directory '" ++ path ++ "': " ++ error.message
  | document error => "JSON serialization error: " ++ error.message
  | settings none fault => "Invalid configuration: " ++ fault.message
  | settings (some path) fault => "Invalid configuration: " ++ path ++ ": " ++ fault.message

end Failure

end DiagramMigrations
