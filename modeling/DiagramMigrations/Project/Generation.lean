import DiagramMigrations.EnumClass.Basic
import DiagramMigrations.Project.Basic
import DiagramMigrations.Project.Context
import DiagramMigrations.Schema.Rules

/-!
The project of a schema: a migration for each table in the order of creation, and after them the
enumeration classes with their base class.
-/

set_option autoImplicit false
set_option relaxedAutoImplicit false

namespace DiagramMigrations

namespace Context

/-- The file for a table at a position. -/
def migrationOutput (c : Context) (t : Table) (position : Nat) : OutputFile where
  path := c.migrationFile position t.name
  content := (c.migration t).text c.settings.enumNamespace
  kind := .migration

/-- The files for the tables. -/
def migrationOutputs (c : Context) : List OutputFile :=
  c.tables.zipIdx.map fun (t, position) ↦ c.migrationOutput t position

/-- The class of an enumeration. -/
def enumClass (c : Context) (e : Enumeration) : EnumClass :=
  .ofEnumeration c.registry e

/-- The file for an enumeration. -/
def enumOutput (c : Context) (e : Enumeration) : OutputFile where
  path := c.enumPath (c.enumClass e).className
  content := (c.enumClass e).text c.settings.enumNamespace
  kind := .enumeration

/-- The file for the base class. -/
def baseOutput (c : Context) : OutputFile where
  path := c.enumPath EnumClass.baseName
  content := EnumClass.baseText c.settings.enumNamespace
  kind := .enumerationBase

/-- Whether there are enumeration classes. -/
def hasEnumClasses (c : Context) : Bool :=
  c.settings.generateEnums && !c.enumerations.isEmpty

/-- The files for the enumerations, the base class first. -/
def enumOutputs (c : Context) : List OutputFile :=
  if c.hasEnumClasses then c.baseOutput :: c.enumerations.map c.enumOutput else []

/-- The project of a context. -/
def project (c : Context) (warnings : List ValidationWarning) : Project where
  name := c.name
  files := c.migrationOutputs ++ c.enumOutputs
  warnings := warnings.map ValidationWarning.display

end Context

/-- The project of a schema, after the settings and the schema have been judged. -/
def Project.generate (settings : Settings) (now : Timestamp) (s : Schema) :
    Except Failure Project := do
  settings.check
  let report := s.validate
  report.result
  let c ← Context.ofSchema settings now s
  return c.project report.warnings

end DiagramMigrations
