import DiagramMigrations.Failure

/-!
Reports of a validation: errors, which stop a compilation, and warnings, which go along with its
result. A report says on its own whether it is valid, and is so as long as it holds no error.
-/

set_option autoImplicit false
set_option relaxedAutoImplicit false

namespace DiagramMigrations

/-- The kinds of errors. -/
inductive ErrorCode
  | noTables
  | foreignKeyTag
  deriving DecidableEq, Repr

/-- The kinds of warnings. -/
inductive WarningCode
  | emptyTableName
  | emptyColumnName
  | duplicateTableName
  | duplicateColumnName
  | missingForeignKeyColumn
  | unknownEnumDefault
  | emptyEnumeration
  | duplicateEnumerationName
  deriving DecidableEq, Repr

/-- A finding that stops a compilation. -/
structure ValidationError where
  code : ErrorCode
  message : String
  path : Option String := none
  suggestion : Option String := none
  deriving DecidableEq, Repr

/-- A finding that does not stop a compilation. -/
structure ValidationWarning where
  code : WarningCode
  message : String
  path : Option String := none
  deriving DecidableEq, Repr

/-- A text after the path it is about. -/
def atPath (path : Option String) (text : String) : String :=
  match path with
  | some path => "[" ++ path ++ "] " ++ text
  | none => text

/-- The line for an error. -/
def ValidationError.display (e : ValidationError) : String :=
  atPath e.path e.message

/-- The line for a warning. -/
def ValidationWarning.display (w : ValidationWarning) : String :=
  atPath w.path ("Warning: " ++ w.message)

/-- The outcome of a validation. -/
structure Report where
  valid : Bool
  errors : List ValidationError
  warnings : List ValidationWarning
  deriving DecidableEq, Repr

namespace Report

/-- The report without findings. -/
def empty : Report := ⟨true, [], []⟩

/-- Adds an error. -/
def addError (r : Report) (e : ValidationError) : Report :=
  { r with valid := false, errors := r.errors ++ [e] }

/-- Adds a warning. -/
def addWarning (r : Report) (w : ValidationWarning) : Report :=
  { r with warnings := r.warnings ++ [w] }

/-- Adds the findings of another report. -/
def merge (r other : Report) : Report where
  valid := r.valid && other.valid
  errors := r.errors ++ other.errors
  warnings := r.warnings ++ other.warnings

/-- The report of one error. -/
def ofError (e : ValidationError) : Report :=
  empty.addError e

/-- The report of warnings alone. -/
def ofWarnings (ws : List ValidationWarning) : Report :=
  { empty with warnings := ws }

/-- Whether there are errors. -/
def hasErrors (r : Report) : Bool :=
  !r.errors.isEmpty

/-- Whether there are warnings. -/
def hasWarnings (r : Report) : Bool :=
  !r.warnings.isEmpty

/-- The failure that a report stands for: a lack of tables before all else, then the errors in
order. -/
def result (r : Report) : Except Failure Unit :=
  if r.errors.any fun e ↦ e.code = .noTables then .error .noTables
  else if r.valid then .ok ()
  else .error (.validation ("; ".intercalate (r.errors.map ValidationError.display)))

end Report

end DiagramMigrations
