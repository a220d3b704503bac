import DiagramMigrations.Proofs.Migration.Lines
import Mathlib.Tactic.Common

/-!
The columns that a creation block creates. A column with a name has a statement of its own, unless
it is one of the timestamps: these two are created together, by one statement.
-/

set_option autoImplicit false
set_option relaxedAutoImplicit false

namespace DiagramMigrations

open Migration

variable {t : Table} {c : Column} {definition : ColumnDefinition} {keyCount : Nat} {name : String}

namespace Migration

/-- Whether a statement creates a column: it defines it, or the column is one of the timestamps and
the statement is the one for these. -/
def Statement.Creates (name : String) : Statement → Prop
  | column definition => definition.name = name
  | timestamps => name = "created_at" ∨ name = "updated_at"
  | index _ | primaryKey _ => False

theorem ofColumn?_eq_some : ColumnDefinition.ofColumn? keyCount c = some definition ↔
    (c.isTimestamp = false ∧ c.isUnnamed = false) ∧
      { name := c.name
        type := c.type
        isUnique := c.isUnique
        defaultCall := defaultCall? c
        isPrimary := c.isPrimaryKey && keyCount == 1
        comment := c.documentation } = definition := by
  rw [ColumnDefinition.ofColumn?]
  cases c.isTimestamp <;> cases c.isUnnamed <;> simp

/-- The statements for a column are its definition and, if it wants one, its index. -/
theorem mem_columnStatements {statement : Statement} : statement ∈ columnStatements keyCount c ↔
    ∃ definition, ColumnDefinition.ofColumn? keyCount c = some definition ∧
      (statement = .column definition ∨ c.wantsIndex = true ∧ statement = .index c.name) := by
  rw [columnStatements]
  cases ColumnDefinition.ofColumn? keyCount c with
  | none => simp
  | some found => by_cases hindex : c.wantsIndex = true <;> simp [hindex]

/-- The call for a type is that of a kind, with the column's name for its first argument. -/
theorem exists_typeCall_eq (name : String) (type : ColumnType) :
    ∃ (kind : ColumnKind) (rest : String),
      typeCall name type = kind.method ++ "(" ++ Php.quote name ++ rest := by
  cases type with
  | enumeration e =>
    exact ⟨.enum, ", " ++ Naming.className e ++ "::values())", by
      simp [typeCall, ColumnKind.method, ← String.append_assoc]⟩
  | primitive kind size =>
    cases size with
    | none => exact ⟨kind, ")", rfl⟩
    | some size =>
      rw [typeCall]
      split_ifs
      · exact ⟨kind, ", " ++ size.render ++ ")", by simp [← String.append_assoc]⟩
      · exact ⟨kind, ")", rfl⟩

theorem ColumnDefinition.exists_text_eq_typeCall (d : ColumnDefinition) :
    ∃ modifiers, d.text = "$table->" ++ typeCall d.name d.type ++ modifiers :=
  ⟨_, by simp only [ColumnDefinition.text, String.append_assoc]; rfl⟩

/-- The name of a column is the first argument of the first call in its definition. -/
theorem ColumnDefinition.exists_text_eq (d : ColumnDefinition) :
    ∃ call rest, d.text = call ++ "(" ++ Php.quote d.name ++ rest ∧ '(' ∉ call.toList := by
  obtain ⟨kind, rest, hcall⟩ := exists_typeCall_eq d.name d.type
  obtain ⟨modifiers, htext⟩ := d.exists_text_eq_typeCall
  have hmethod : '(' ∉ kind.method.toList := by cases kind <;> decide
  refine ⟨"$table->" ++ kind.method, rest ++ modifiers, ?_, by simpa using hmethod⟩
  rw [htext, hcall]
  simp only [String.append_assoc]

end Migration

namespace Table

/-- The statements for a table are those for its columns, that for a key of several columns, and
that for the timestamps. -/
theorem mem_statements {statement : Statement} : statement ∈ t.statements ↔
    (∃ c ∈ t.columns, statement ∈ columnStatements t.primaryKey.length c) ∨
      (2 ≤ t.primaryKey.length ∧ statement = .primaryKey (t.primaryKey.map Column.name)) ∨
      t.hasTimestamps = true ∧ statement = .timestamps := by
  have hkey : statement ∈ (compositeKey? (t.primaryKey.map Column.name)).toList ↔
      2 ≤ t.primaryKey.length ∧ statement = .primaryKey (t.primaryKey.map Column.name) := by
    rw [compositeKey?, List.length_map]
    split_ifs with hlength <;> simp [hlength]
  have hlast : statement ∈ (if t.hasTimestamps then [Statement.timestamps] else []) ↔
      t.hasTimestamps = true ∧ statement = .timestamps := by
    split_ifs with htimestamps <;> simp [htimestamps]
  rw [statements, List.mem_append, List.mem_append, List.mem_flatMap, hkey, hlast, or_assoc]

/-- The definitions in a creation block are those of the columns that have one. -/
theorem column_mem_statements : .column definition ∈ t.statements ↔
    ∃ c ∈ t.columns, ColumnDefinition.ofColumn? t.primaryKey.length c = some definition := by
  simp [mem_statements, mem_columnStatements]

theorem timestamps_mem_statements : .timestamps ∈ t.statements ↔ t.hasTimestamps = true := by
  simp [mem_statements, mem_columnStatements]

end Table

namespace CreationBlock

/-- Whether one of the statements of a block creates a column. -/
def Creates (b : CreationBlock) (name : String) : Prop :=
  ∃ s ∈ b.statements, s.Creates name

/-- A block creates the columns of its table that have a name and are no timestamps, and both
timestamps if the table has one of them. -/
theorem creates_ofTable (foreignKeys : List ForeignKey) :
    (Migration.ofTable t foreignKeys).block.Creates name ↔
      (∃ c ∈ t.columns, (c.isTimestamp = false ∧ c.isUnnamed = false) ∧ c.name = name) ∨
        t.hasTimestamps = true ∧ (name = "created_at" ∨ name = "updated_at") := by
  constructor
  · rintro ⟨s, hs, hcreates⟩
    cases s with
    | column definition =>
      obtain ⟨c, hc, hdefinition⟩ := Table.column_mem_statements.mp hs
      obtain ⟨hstated, rfl⟩ := ofColumn?_eq_some.mp hdefinition
      exact Or.inl ⟨c, hc, hstated, hcreates⟩
    | timestamps => exact Or.inr ⟨Table.timestamps_mem_statements.mp hs, hcreates⟩
    | index column => exact hcreates.elim
    | primaryKey columns => exact hcreates.elim
  · rintro (⟨c, hc, hstated, hname⟩ | ⟨htimestamps, hname⟩)
    · have hdefinition : ColumnDefinition.ofColumn? t.primaryKey.length c = some _ :=
        ofColumn?_eq_some.mpr ⟨hstated, rfl⟩
      exact ⟨_, Table.column_mem_statements.mpr ⟨c, hc, hdefinition⟩, hname⟩
    · exact ⟨_, Table.timestamps_mem_statements.mpr htimestamps, hname⟩

/-- Every column of a table that has a name is created. -/
theorem creates_of_mem (foreignKeys : List ForeignKey) (hc : c ∈ t.columns)
    (hname : c.isUnnamed = false) : (Migration.ofTable t foreignKeys).block.Creates c.name := by
  rw [creates_ofTable]
  by_cases htimestamp : c.isTimestamp = true
  · have htimestamps : t.hasTimestamps = true := List.any_eq_true.mpr ⟨c, hc, htimestamp⟩
    have hwhich : c.name = "created_at" ∨ c.name = "updated_at" := by
      simpa [Column.isTimestamp] using htimestamp
    exact Or.inr ⟨htimestamps, hwhich⟩
  · exact Or.inl ⟨c, hc, ⟨Bool.eq_false_iff.mpr htimestamp, hname⟩, rfl⟩

/-- A column that a table is asked for, and has, is created. -/
theorem creates_of_column? (foreignKeys : List ForeignKey) (hc : t.column? name = some c)
    (hname : Text.isBlankText name = false) :
    (Migration.ofTable t foreignKeys).block.Creates name := by
  have hfound : c.name = name := by simpa using List.find?_some hc
  subst name
  exact creates_of_mem foreignKeys (List.mem_of_find?_eq_some hc) hname

end CreationBlock

end DiagramMigrations
