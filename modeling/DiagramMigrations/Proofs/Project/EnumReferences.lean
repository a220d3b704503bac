import DiagramMigrations.Proofs.EnumClass.Lines
import DiagramMigrations.Proofs.Migration.Mentions
import DiagramMigrations.Proofs.Migration.UseLines
import DiagramMigrations.Proofs.Project.Outcome
import DiagramMigrations.Proofs.Schema.Selection
import DiagramMigrations.Proofs.Schema.Warnings

/-!
References from migrations to enumeration classes. Columns take literals only of enumerations of the
schema, so that every class a migration mentions is generated with it. If nothing is warned about,
no two enumerations share a class, and a class declares the constants that are taken from it.
-/

set_option autoImplicit false
set_option relaxedAutoImplicit false

namespace DiagramMigrations

variable {settings : Settings} {now : Timestamp} {s : Schema} {d : Diagram} {c : Context}
  {t : Table} {foreignKeys : List Migration.ForeignKey} {className : String}

namespace Schema

theorem isSilentOn_of_no_warnings (h : s.validate.warnings = []) (code : WarningCode) :
    s.validate.IsSilentOn code := by
  intro w hw
  rw [h] at hw
  exact absurd hw List.not_mem_nil

/-- Nothing is warned about on the way to a project without warnings. -/
theorem isSilentOn_of_generate {p : Project} (hp : Project.generate settings now s = .ok p)
    (hsilent : p.warnings = []) (code : WarningCode) : s.validate.IsSilentOn code := by
  rw [Project.warnings_of_generate hp, List.map_eq_nil_iff] at hsilent
  exact isSilentOn_of_no_warnings hsilent code

/-- A class that the migration of a table mentions is that of an enumeration. -/
theorem exists_enumeration_of_mentions (ht : t ∈ (ofDiagram d).tables)
    {enumNamespace words : String}
    (h : (Migration.ofTable t foreignKeys).Mentions enumNamespace className words) :
    ∃ e ∈ (ofDiagram d).enumerations, Naming.className e.name = className := by
  obtain ⟨column, hcolumn, name, htype, rfl⟩ := h.exists_column
  obtain ⟨e, he⟩ := exists_enumeration (enumerationTypes_ofDiagram ht hcolumn htype)
  obtain ⟨hmem, rfl⟩ := enumeration?_eq_some he
  exact ⟨e, hmem, rfl⟩

/-- If nothing is warned about, a constant that is taken for a default is a literal of every
enumeration that comes to the class. -/
theorem literal_of_takesDefault (hsilent : (ofDiagram d).validate.warnings = [])
    (ht : t ∈ (ofDiagram d).tables) {constant : String}
    (h : (Migration.ofTable t foreignKeys).TakesDefault className constant)
    {e : Enumeration} (he : e ∈ (ofDiagram d).enumerations)
    (hclass : Naming.className e.name = className) : constant ∈ e.literalNames := by
  obtain ⟨column, hcolumn, name, htype, hvalue, hname⟩ := h.exists_column
  obtain ⟨first, hfirst⟩ := exists_enumeration (enumerationTypes_ofDiagram ht hcolumn htype)
  have hliteral : constant ∈ first.literalNames :=
    default_mem_literalNames (isSilentOn_of_no_warnings hsilent _) ht hcolumn htype hvalue hfirst
  obtain ⟨hmem, rfl⟩ := enumeration?_eq_some hfirst
  have hclasses := classNames_nodup (isSilentOn_of_no_warnings hsilent _)
  have hsame : first = e :=
    List.inj_on_of_nodup_map hclasses hmem he (hname.trans hclass.symm)
  rwa [hsame] at hliteral

end Schema

/-! ### Files -/

namespace Context

/-- Whether a file holds an enumeration class: it stands at the path of the class, and its lines are
those of the class. -/
structure Holds (c : Context) (f : OutputFile) (k : EnumClass) : Prop where
  path : f.path = c.enumPath k.className
  content : f.content = "\n".intercalate (k.lines c.settings.enumNamespace) ++ "\n"

theorem holds_enumOutput (e : Enumeration) : c.Holds (c.enumOutput e) (c.enumClass e) where
  path := by rw [enumOutput]
  content := by rw [enumOutput, EnumClass.text_eq]

/-- If enumeration classes are wanted, every enumeration has its file. -/
theorem enumOutput_mem_project (h : ofSchema settings now s = .ok c)
    (henums : settings.generateEnums = true) {e : Enumeration} (he : e ∈ s.enumerations)
    (warnings : List ValidationWarning) :
    c.enumOutput e ∈ (c.project warnings).filesOf .enumeration := by
  have hclasses : c.hasEnumClasses = true :=
    (hasEnumClasses_iff h).mpr ⟨henums, List.ne_nil_of_mem he⟩
  rw [enumerations_project, if_pos hclasses, enumerations_eq h]
  exact List.mem_map_of_mem he

end Context

/-- The lines of a migration that import classes, spelled out: one for each enumeration of its
table, and those that every migration has. -/
def Table.useLines (t : Table) (enumNamespace : String) : List String :=
  t.enumerations.map (fun name ↦ "use " ++ enumNamespace ++ "\\" ++ Naming.className name ++ ";") ++
    ["use Illuminate\\Support\\Facades\\Schema;", "use Illuminate\\Database\\Schema\\Blueprint;",
      "use Illuminate\\Database\\Migrations\\Migration;"]

theorem Context.filter_isUse_creation (c : Context) (t : Table) :
    (c.creation t).lines.filter Php.isUse = t.useLines c.settings.enumNamespace := by
  rw [creation, Migration.lines_creation, Migration.filter_isUse_lines, Migration.imports,
    List.map_append, List.map_map, Table.useLines]
  refine congrArg (· ++ _) (List.map_congr_left fun name _ ↦ ?_)
  simp only [Function.comp_apply, Migration.useLine, Migration.enumImport, String.append_assoc]

/-- Every enumeration class that a migration of a project mentions is held by an enumeration file of
the project, at the path of the class, if such classes are wanted at all; and if the project has no
warnings, the class declares the constants that are taken from it for the defaults of columns whose
literals are those of an enumeration. The words of a mention stand in a line of the migration, whose
imports and statements are spelled out; a default of any other column is written as it stands, and
may name anything. -/
theorem enum_references_closed {p : Project}
    (hp : Project.generate settings now (Schema.ofDiagram d) = .ok p)
    (henums : settings.generateEnums = true) :
    ∃ c, Context.ofSchema settings now (Schema.ofDiagram d) = .ok c ∧
      p.filesOf .migration = c.migrationOutputs ∧
      ∀ f ∈ p.filesOf .migration, ∃ t ∈ c.tables, c.IsMigrationOf t.id f ∧
        f.content = (c.creation t).text ∧ (c.creation t).statements = t.lines ∧
        (c.creation t).lines.filter Php.isUse = t.useLines settings.enumNamespace ∧
        (∀ className words, (c.migration t).Mentions settings.enumNamespace className words →
          (∃ line ∈ (c.creation t).lines, words.toList <:+: line.toList) ∧
          ∃ e ∈ (Schema.ofDiagram d).enumerations, (c.enumClass e).className = className ∧
            ∃ g ∈ p.filesOf .enumeration, c.Holds g (c.enumClass e)) ∧
        (p.warnings = [] → ∀ className constant,
          (c.migration t).TakesDefault className constant →
          ∀ e ∈ (Schema.ofDiagram d).enumerations, (c.enumClass e).className = className →
            (c.enumClass e).Declares settings.enumNamespace constant) := by
  have hwarned := Project.warnings_of_generate hp
  obtain ⟨-, -, c, hc, rfl⟩ := Project.generate_eq_ok.mp hp
  refine ⟨c, hc, Context.migrations_project _, fun f hf ↦ ?_⟩
  rw [Context.migrations_project] at hf
  obtain ⟨id, place, t, hplace, rfl, rfl⟩ := Context.mem_migrationOutputs.mp hf
  have ht : t ∈ c.tables := List.mem_of_getElem? hplace
  have htable : t ∈ (Schema.ofDiagram d).tables := (Context.tables_perm hc).mem_iff.mp ht
  have huses := c.filter_isUse_creation t
  have hlines : (c.creation t).lines = (c.migration t).lines settings.enumNamespace := by
    rw [Context.creation, Migration.lines_creation, Context.settings_eq hc]
  rw [Context.settings_eq hc] at huses
  refine ⟨t, ht, ⟨place, t, hplace, rfl, rfl⟩, Context.content_migrationOutput t place,
    Migration.statements_creation t _ _, huses, ?_, ?_⟩
  · intro className words hmentions
    obtain ⟨e, he, hclass⟩ := Schema.exists_enumeration_of_mentions htable hmentions
    rw [hlines]
    exact ⟨hmentions.infix_lines, e, he, hclass, c.enumOutput e,
      Context.enumOutput_mem_project hc henums he _, Context.holds_enumOutput e⟩
  · intro hwarnings className constant htakes e he hclass
    have hsilent : (Schema.ofDiagram d).validate.warnings = [] :=
      List.map_eq_nil_iff.mp (hwarned.symm.trans hwarnings)
    have hliteral := Schema.literal_of_takesDefault hsilent htable htakes he hclass
    exact EnumClass.declares_of_mem hliteral settings.enumNamespace

/-- A diagram on which a ticket has a state, which is open at first. -/
def Diagram.tickets : Diagram where
  name := "Tickets"
  elements := [
    .ofClass {
      id := "t"
      name := "Ticket"
      classification := "table"
      attributes := [
        { name := "id", isId := true },
        { name := "state", declaredType := .reference "s", defaultValue := "Open" }] },
    .ofEnumeration { id := "s", name := "ticket state", literals := [{ name := "Open" }] }]

theorem ticket_takesDefault {t : Table} (ht : t ∈ (Schema.ofDiagram .tickets).tables)
    (foreignKeys : List Migration.ForeignKey) :
    (Migration.ofTable t foreignKeys).TakesDefault "TicketState" "Open" := by
  have hstatement : ∀ t ∈ (Schema.ofDiagram .tickets).tables, .column {
      name := "state"
      type := .enumeration "ticket state"
      isUnique := false
      defaultCall := some (.constant "TicketState" "Open")
      isPrimary := false
      comment := none } ∈ t.statements := by
    decide
  exact ⟨_, hstatement t ht, rfl⟩

/-- A witness: the migration of the tickets takes its default from the class of their states. -/
theorem ticket_references_closed :
    ∃ p c, Project.generate {} ⟨0, 0, 0⟩ (Schema.ofDiagram .tickets) = .ok p ∧
      Settings.generateEnums {} = true ∧ p.warnings = [] ∧
      Context.ofSchema {} ⟨0, 0, 0⟩ (Schema.ofDiagram .tickets) = .ok c ∧
      (p.filesOf .migration).length = 1 ∧
      ∀ f ∈ p.filesOf .migration, ∃ t ∈ c.tables, c.IsMigrationOf t.id f ∧
        f.content = (c.creation t).text ∧
        (∃ line ∈ (c.creation t).lines,
          "->default(TicketState::Open)".toList <:+: line.toList) ∧
        ∃ e ∈ (Schema.ofDiagram .tickets).enumerations,
          (c.enumClass e).className = "TicketState" ∧
          (∃ g ∈ p.filesOf .enumeration, c.Holds g (c.enumClass e)) ∧
          (c.enumClass e).Declares "App\\Enums" "Open" := by
  have horder : dependencyOrder (Schema.ofDiagram .tickets).tables
      (Schema.ofDiagram .tickets).associations = .ok [0] := by decide
  have hdefaults : Settings.fault? {} = none := by decide
  obtain ⟨p, hp⟩ : ∃ p, Project.generate {} ⟨0, 0, 0⟩ (Schema.ofDiagram .tickets) = .ok p :=
    Project.exists_generate hdefaults (by decide) horder
  have hwarnings : p.warnings = [] := by
    rw [Project.warnings_of_generate hp]
    decide
  obtain ⟨c, hc, hfiles, hclosed⟩ := enum_references_closed hp rfl
  have htables := Context.tables_perm hc
  have hlength : (p.filesOf .migration).length = 1 := by
    rw [hfiles, Context.length_migrationOutputs, htables.length_eq]
    decide
  refine ⟨p, c, hp, rfl, hwarnings, hc, hlength, fun f hf ↦ ?_⟩
  obtain ⟨t, ht, hmigration, hcontent, -, -, hmentioned, hdeclared⟩ := hclosed f hf
  have htakes : (c.migration t).TakesDefault "TicketState" "Open" :=
    ticket_takesDefault (htables.mem_iff.mp ht) (c.foreignKeys t)
  obtain ⟨hline, e, he, hclass, hfile⟩ := hmentioned _ _ (.default htakes)
  exact ⟨t, ht, hmigration, hcontent, hline, e, he, hclass, hfile,
    hdeclared hwarnings _ _ htakes e he hclass⟩

/-- A diagram on which a ticket also has a former state, which is a text that is missing at first,
in words that read like a constant of the class of states. -/
def Diagram.formerTickets : Diagram where
  name := "Tickets"
  elements := [
    .ofClass {
      id := "t"
      name := "Ticket"
      classification := "table"
      attributes := [
        { name := "state", declaredType := .reference "s", defaultValue := "Open" },
        { name := "former", declaredType := .name "string",
          defaultValue := "TicketState::Missing" }] },
    .ofEnumeration { id := "s", name := "ticket state", literals := [{ name := "Open" }] }]

/-- A default that is written as it stands may read like a constant that its class does not declare,
and nothing is warned about. -/
theorem former_state_not_declared :
    ∃ p c, Project.generate {} ⟨0, 0, 0⟩ (Schema.ofDiagram .formerTickets) = .ok p ∧
      Settings.generateEnums {} = true ∧ p.warnings = [] ∧
      Context.ofSchema {} ⟨0, 0, 0⟩ (Schema.ofDiagram .formerTickets) = .ok c ∧
      ∃ f ∈ p.filesOf .migration, ∃ t ∈ c.tables, f.content = (c.creation t).text ∧
        "            $table->string('former')->default(TicketState::Missing);" ∈
          (c.creation t).lines ∧
        (∃ e ∈ (Schema.ofDiagram .formerTickets).enumerations,
          (c.enumClass e).className = "TicketState") ∧
        ∀ e ∈ (Schema.ofDiagram .formerTickets).enumerations,
          ¬ (c.enumClass e).Declares "App\\Enums" "Missing" := by
  have horder : dependencyOrder (Schema.ofDiagram .formerTickets).tables
      (Schema.ofDiagram .formerTickets).associations = .ok [0] := by decide
  have hdefaults : Settings.fault? {} = none := by decide
  have hreport : (Schema.ofDiagram .formerTickets).validate = .empty := by decide
  obtain ⟨p, hp, hwarnings⟩ : ∃ p, Project.generate {} ⟨0, 0, 0⟩
      (Schema.ofDiagram .formerTickets) = .ok p ∧ p.warnings = [] :=
    Project.exists_generate_of_empty hdefaults hreport horder
  obtain ⟨-, -, c, hc, rfl⟩ := Project.generate_eq_ok.mp hp
  have htables := Context.tables_perm hc
  have hsome : c.tables ≠ [] := by
    rw [← List.length_pos_iff, htables.length_eq]
    decide
  obtain ⟨t, ht⟩ := List.exists_mem_of_ne_nil _ hsome
  obtain ⟨place, hplace⟩ := List.mem_iff_getElem?.mp ht
  have hline : ∀ t ∈ (Schema.ofDiagram .formerTickets).tables,
      "            $table->string('former')->default(TicketState::Missing);" ∈ t.lines := by decide
  have hstatements : (c.creation t).statements = t.lines := Migration.statements_creation t _ _
  refine ⟨_, c, hp, rfl, hwarnings, hc, c.migrationOutput t place, ?_, t, ht,
    Context.content_migrationOutput t place, ?_, ?_, fun e he hdeclares ↦ ?_⟩
  · rw [Context.migrations_project]
    exact Context.mem_migrationOutputs.mpr ⟨t.id, place, t, hplace, rfl, rfl⟩
  · refine Creation.mem_lines_of_mem_statements ?_
    rw [hstatements]
    exact hline t (htables.mem_iff.mp ht)
  · have hclass : ∃ e ∈ (Schema.ofDiagram .formerTickets).enumerations,
        Naming.className e.name = "TicketState" := by decide
    exact hclass
  · have hliterals : ∀ e ∈ (Schema.ofDiagram .formerTickets).enumerations,
        "Missing" ∉ e.literalNames := by decide
    exact hliterals e he hdeclares.literal

end DiagramMigrations
