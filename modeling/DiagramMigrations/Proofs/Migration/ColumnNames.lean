import DiagramMigrations.Proofs.Migration.Columns
import DiagramMigrations.Proofs.Php.Literal
import DiagramMigrations.Proofs.Schema.Warnings

/-!
The names under which a creation block defines columns. A name is written as a literal, in which
every run of white space is a single blank and there is none at the ends; columns whose names differ
in nothing else are defined under one name. A validation compares the names as they are, and so does
not warn about them.
-/

set_option autoImplicit false
set_option relaxedAutoImplicit false

namespace DiagramMigrations

open Migration

variable {t : Table} {c : Column} {keyCount : Nat} {s : Schema}

namespace Migration

/-- The literal under which a statement defines a column. -/
def Statement.nameLiteral? : Statement → Option String
  | column definition => some (Php.quote definition.name)
  | index _ | primaryKey _ | timestamps => none

/-- The literal is the first argument of the first call in the statement. -/
theorem Statement.exists_text_eq {statement : Statement} {literal : String}
    (h : statement.nameLiteral? = some literal) :
    ∃ call rest, statement.text = call ++ "(" ++ literal ++ rest ∧ '(' ∉ call.toList := by
  cases statement with
  | column definition =>
    obtain rfl := Option.some.inj h
    exact definition.exists_text_eq
  | index column => exact absurd h (by simp [nameLiteral?])
  | primaryKey columns => exact absurd h (by simp [nameLiteral?])
  | timestamps => exact absurd h (by simp [nameLiteral?])

theorem nameLiterals_columnStatements :
    (columnStatements keyCount c).filterMap Statement.nameLiteral? =
      (if !(c.isTimestamp || c.isUnnamed) then some (Php.quote c.name) else none).toList := by
  have hindex : (if c.wantsIndex then [Statement.index c.name] else []).filterMap
      Statement.nameLiteral? = [] := by
    split_ifs <;> rfl
  rw [columnStatements, ColumnDefinition.ofColumn?]
  cases c.isTimestamp || c.isUnnamed with
  | true => rfl
  | false =>
    rw [if_neg Bool.false_ne_true]
    dsimp only
    rw [List.filterMap_cons, hindex]
    rfl

end Migration

/-- The literals under which a creation block defines columns. -/
def CreationBlock.nameLiterals (b : CreationBlock) : List String :=
  b.statements.filterMap Statement.nameLiteral?

/-- The names of the columns that have a definition. -/
def Table.definedNames (t : Table) : List String :=
  (t.columns.filter fun c ↦ !(c.isTimestamp || c.isUnnamed)).map Column.name

/-- The literals in the creation of a table are those of the names of its columns. -/
theorem CreationBlock.nameLiterals_ofTable (t : Table) (foreignKeys : List ForeignKey) :
    (Migration.ofTable t foreignKeys).block.nameLiterals = t.definedNames.map Php.quote := by
  have hcolumns : (t.columns.flatMap (columnStatements t.primaryKey.length)).filterMap
      Statement.nameLiteral? = t.definedNames.map Php.quote := by
    rw [List.filterMap_flatMap]
    simp only [nameLiterals_columnStatements]
    rw [← List.filterMap_eq_flatMap_toList, ← List.filterMap_filter, Table.definedNames,
      List.map_map, ← List.filterMap_eq_map]
    rfl
  have hkey : (compositeKey? (t.primaryKey.map Column.name)).toList.filterMap
      Statement.nameLiteral? = [] := by
    rw [compositeKey?]
    split_ifs <;> rfl
  have hlast : (if t.hasTimestamps then [Statement.timestamps] else []).filterMap
      Statement.nameLiteral? = [] := by
    split_ifs <;> rfl
  change t.statements.filterMap Statement.nameLiteral? = _
  rw [Table.statements, List.filterMap_append, List.filterMap_append, hcolumns, hkey, hlast,
    List.append_nil, List.append_nil]

/-- Without a warning about a repeated name, the columns of a table that have a definition have
distinct names. -/
theorem Table.definedNames_nodup
    (h : (Rule.addColumns .empty t).IsSilentOn .duplicateColumnName) : t.definedNames.Nodup := by
  have hnames : t.columns.Pairwise fun b c ↦ c.isUnnamed = false → b.name ≠ c.name := by
    refine Rule.pairwise_of_withPrevious fun entry hentry b hb hnamed hsame ↦ ?_
    have hwarned : Rule.duplicateColumnName t entry.2 ∈ Rule.columnWarnings t entry := by
      have hbefore : entry.2.name ∈ entry.1.map Column.name := hsame ▸ List.mem_map_of_mem hb
      rw [Rule.columnWarnings, hnamed, if_neg Bool.false_ne_true, if_pos hbefore]
      exact List.mem_singleton_self _
    have hreported : Rule.duplicateColumnName t entry.2 ∈ (Rule.addColumns .empty t).warnings := by
      rw [Rule.warnings_addColumns]
      exact List.mem_append_right _ (List.mem_flatMap.mpr ⟨entry, hentry, hwarned⟩)
    exact h _ hreported rfl
  refine List.pairwise_map.mpr (List.pairwise_filter.mpr (hnames.imp fun hdiffer _ hdefined ↦ ?_))
  rw [Bool.not_eq_true', Bool.or_eq_false_iff] at hdefined
  exact hdiffer hdefined.2

/-- The validation warns about repeated columns table by table. In the creation of a table that it
does not warn about, the literals under which columns are defined are distinct exactly if no two
of the names differ in white space alone. -/
theorem name_literals_distinct_iff (s : Schema) :
    s.validate.warningsOf .duplicateColumnName =
        s.tables.flatMap (fun t ↦ (Rule.addColumns .empty t).warningsOf .duplicateColumnName) ∧
      ∀ t ∈ s.tables, (Rule.addColumns .empty t).IsSilentOn .duplicateColumnName →
        ∀ foreignKeys : List ForeignKey,
          (∀ statement ∈ (Migration.ofTable t foreignKeys).block.statements,
            ∀ literal ∈ statement.nameLiteral?, ∃ call rest,
              statement.text = call ++ "(" ++ literal ++ rest ∧ '(' ∉ call.toList) ∧
          ((Migration.ofTable t foreignKeys).block.nameLiterals.Nodup ↔
            ∀ name ∈ t.definedNames, ∀ other ∈ t.definedNames,
              Text.fields name.toList = Text.fields other.toList → name = other) := by
  constructor
  · rw [Schema.warningsOf_validate]
    change (Rule.columnsReport s).warningsOf .duplicateColumnName = _
    rw [Report.warningsOf, Rule.warnings_columnsReport, List.filter_flatMap]
    rfl
  · intro t _ hsilent foreignKeys
    refine ⟨fun statement _ literal hliteral ↦ Statement.exists_text_eq hliteral, ?_⟩
    rw [CreationBlock.nameLiterals_ofTable,
      List.nodup_map_iff_inj_on (t.definedNames_nodup hsilent)]
    simp only [Php.quote_eq_quote_iff]

/-- A schema of contacts with columns of some names. -/
def Schema.contacts (names : List String) : Schema where
  name := "Contacts"
  tables := [{
    id := "c"
    name := "Contact"
    columns := names.map fun name ↦ { name, type := .primitive .string none } }]

/-- A witness: two names of contacts are defined as they are. -/
theorem contact_names_distinct :
    ∃ t ∈ (Schema.contacts ["first name", "last name"]).tables,
      (Rule.addColumns .empty t).IsSilentOn .duplicateColumnName ∧
        (Migration.ofTable t []).block.nameLiterals = ["'first name'", "'last name'"] ∧
        (Migration.ofTable t []).block.nameLiterals.Nodup := by
  obtain ⟨-, hall⟩ := name_literals_distinct_iff (.contacts ["first name", "last name"])
  refine ⟨_, List.mem_singleton_self _, by decide, by decide, ?_⟩
  obtain ⟨-, hdistinct⟩ := hall _ (List.mem_singleton_self _) (by decide) []
  exact hdistinct.mpr (by decide)

/-- Two columns whose names differ in a blank at the end are defined under one name, and nothing is
warned about. -/
theorem email_defined_twice :
    (Schema.contacts ["email", "email "]).validate.warnings = [] ∧
      ∃ t ∈ (Schema.contacts ["email", "email "]).tables,
        (Migration.ofTable t []).block.statements.map Statement.text =
            ["$table->string('email');", "$table->string('email');"] ∧
          ¬ (Migration.ofTable t []).block.nameLiterals.Nodup := by
  refine ⟨by decide, _, List.mem_singleton_self _, ?_⟩
  decide

end DiagramMigrations
