import DiagramMigrations.Proofs.FirstOccurrence
import DiagramMigrations.Proofs.Migration.Columns

/-!
The enumeration classes that a migration mentions. It imports them, gives their values to columns
and takes their constants for defaults, and they are always the classes of the enumerations whose
literals the columns of the table take. A default of any other column is written as it stands on
the diagram and mentions no class.
-/

set_option autoImplicit false
set_option relaxedAutoImplicit false

namespace DiagramMigrations

variable {t : Table} {c : Column} {className literal : String}

namespace Migration

/-- Whether a migration takes a constant of a class for the default of a column. -/
def TakesDefault (m : Migration) (className literal : String) : Prop :=
  ∃ definition, .column definition ∈ m.block.statements ∧
    definition.defaultCall = some (.constant className literal)

/-- Whether a migration mentions an enumeration class, and in which words: in an import, for the
values of a column, or in the default of a column. -/
inductive Mentions (m : Migration) (enumNamespace : String) : String → String → Prop
  | imported {name : String} (hname : name ∈ m.enumerations) :
    Mentions m enumNamespace (Naming.className name)
      ("use " ++ (enumNamespace ++ "\\" ++ Naming.className name) ++ ";")
  | values {definition : ColumnDefinition} {name : String}
    (hmem : .column definition ∈ m.block.statements)
    (htype : definition.type = .enumeration name) :
    Mentions m enumNamespace (Naming.className name)
      ("enum(" ++ Php.quote definition.name ++ ", " ++ Naming.className name ++ "::values())")
  | default {className literal : String} (htakes : m.TakesDefault className literal) :
    Mentions m enumNamespace className ("->default(" ++ className ++ "::" ++ literal ++ ")")

/-! ### Where a mention stands -/

theorem typeCall_infix_text (definition : ColumnDefinition) :
    (typeCall definition.name definition.type).toList <:+: definition.text.toList := by
  simp only [ColumnDefinition.text, String.toList_append, List.append_assoc]
  exact List.infix_append' _ _ _

theorem defaultCall_infix_text {definition : ColumnDefinition} {call : DefaultCall}
    (h : definition.defaultCall = some call) : call.text.toList <:+: definition.text.toList := by
  simp only [ColumnDefinition.text, h, String.toList_append, List.append_assoc]
  refine List.IsInfix.trans ?_ (List.suffix_append _ _).isInfix
  refine List.IsInfix.trans ?_ (List.suffix_append _ _).isInfix
  exact List.infix_append' _ _ _

theorem import_mem_lines {m : Migration} {enumNamespace name : String}
    (h : name ∈ m.imports enumNamespace) : "use " ++ name ++ ";" ∈ m.lines enumNamespace := by
  have habove : "use " ++ name ++ ";" ∈ m.linesAbove enumNamespace := by
    simp [linesAbove, h]
  exact List.mem_append_left _ (List.mem_append_left _ habove)

/-- The words of a mention stand in a line of the migration. -/
theorem Mentions.infix_lines {m : Migration} {enumNamespace words : String}
    (h : m.Mentions enumNamespace className words) :
    ∃ line ∈ m.lines enumNamespace, words.toList <:+: line.toList := by
  cases h with
  | imported hname =>
    exact ⟨_, import_mem_lines (List.mem_append_left _ (List.mem_map.mpr ⟨_, hname, rfl⟩)),
      List.infix_rfl⟩
  | values hmem htype =>
    obtain ⟨line, hline, hinfix⟩ := text_infix_lines hmem enumNamespace
    exact ⟨line, hline, (htype ▸ typeCall_infix_text _).trans hinfix⟩
  | default htakes =>
    obtain ⟨definition, hmem, hcall⟩ := htakes
    obtain ⟨line, hline, hinfix⟩ := text_infix_lines hmem enumNamespace
    exact ⟨line, hline, (defaultCall_infix_text hcall).trans hinfix⟩

end Migration

/-! ### The enumerations of a table -/

theorem Column.enumeration?_eq_some {name : String} :
    c.enumeration? = some name ↔ c.type = .enumeration name := by
  unfold enumeration?
  cases c.type <;> simp

theorem enumerations_eq_foldl (t : Table) :
    t.enumerations = (t.columns.filterMap Column.enumeration?).foldl (keepNew id) [] := by
  rw [Table.enumerations, keepNew_id]

/-- The enumerations of a table are those whose literals a column takes. -/
theorem mem_enumerations {name : String} :
    name ∈ t.enumerations ↔ ∃ c ∈ t.columns, c.type = .enumeration name := by
  have hkeys := @mem_foldl_keepNew_keys String String _ id
    (t.columns.filterMap Column.enumeration?) [] name
  simpa [← enumerations_eq_foldl, Column.enumeration?_eq_some] using hkeys

namespace Migration

/-- A constant is taken for the default of a column that takes literals of an enumeration. -/
theorem defaultCall?_eq_constant : defaultCall? c = some (.constant className literal) ↔
    ∃ name, c.type = .enumeration name ∧ c.defaultValue = some (.literal literal) ∧
      Naming.className name = className := by
  rw [defaultCall?]
  cases hvalue : c.defaultValue with
  | none => simp
  | some value =>
    cases htype : c.type <;> cases value <;> simp [Column.enumeration?, htype]
    exact and_comm

variable {foreignKeys : List ForeignKey}

/-- A constant that is taken for a default is that of a column. -/
theorem TakesDefault.exists_column (h : (ofTable t foreignKeys).TakesDefault className literal) :
    ∃ c ∈ t.columns, ∃ name, c.type = .enumeration name ∧
      c.defaultValue = some (.literal literal) ∧ Naming.className name = className := by
  obtain ⟨definition, hmem, hcall⟩ := h
  obtain ⟨c, hc, hdefinition⟩ := Table.column_mem_statements.mp hmem
  obtain ⟨-, rfl⟩ := ofColumn?_eq_some.mp hdefinition
  exact ⟨c, hc, defaultCall?_eq_constant.mp hcall⟩

/-- What a migration mentions is the class of an enumeration whose literals a column takes. -/
theorem Mentions.exists_column {enumNamespace words : String}
    (h : (ofTable t foreignKeys).Mentions enumNamespace className words) :
    ∃ c ∈ t.columns, ∃ name, c.type = .enumeration name ∧ Naming.className name = className := by
  cases h with
  | imported hname =>
    obtain ⟨c, hc, htype⟩ := mem_enumerations.mp hname
    exact ⟨c, hc, _, htype, rfl⟩
  | values hmem htype =>
    obtain ⟨c, hc, hdefinition⟩ := Table.column_mem_statements.mp hmem
    obtain ⟨-, rfl⟩ := ofColumn?_eq_some.mp hdefinition
    exact ⟨c, hc, _, htype, rfl⟩
  | default htakes =>
    obtain ⟨c, hc, name, htype, -, hclass⟩ := htakes.exists_column
    exact ⟨c, hc, name, htype, hclass⟩

end Migration

end DiagramMigrations
