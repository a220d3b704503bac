import DiagramMigrations.Proofs.Migration.Creation

/-!
The declaration of the primary key. A key of several columns is declared in a statement that lists
them, and a key of one column where the column is defined. The columns are taken as they are
flagged, whatever becomes of them: alone, a column that is not defined on its own is lost as a key,
and a column without a name is listed among others though nothing creates it.
-/

set_option autoImplicit false
set_option relaxedAutoImplicit false

namespace DiagramMigrations

open Migration

variable {t : Table} {c : Column} {keyCount : Nat}

namespace Migration

/-- A declaration of a primary key: in the definition of a column, or in a list of columns. -/
inductive KeyDeclaration
  | inline (definition : ColumnDefinition)
  | listed (columns : List String)
  deriving DecidableEq, Repr

namespace KeyDeclaration

/-- The columns that are declared to make up the key. -/
def columns : KeyDeclaration → List String
  | inline definition => [definition.name]
  | listed names => names

/-- The words of a declaration. -/
def words : KeyDeclaration → String
  | inline _ => "->primary()"
  | listed names => "$table->primary(" ++ Php.textList names ++ ");"

end KeyDeclaration

/-- The declaration of the key that a statement makes. -/
def Statement.keyDeclaration? : Statement → Option KeyDeclaration
  | column definition => if definition.isPrimary then some (.inline definition) else none
  | primaryKey names => some (.listed names)
  | index _ | timestamps => none

/-- A declaration stands in the text of its statement. -/
theorem words_infix_text {statement : Statement} {k : KeyDeclaration}
    (h : statement.keyDeclaration? = some k) : k.words.toList <:+: statement.text.toList := by
  cases statement with
  | column definition =>
    simp only [Statement.keyDeclaration?] at h
    split_ifs at h with hprimary
    obtain rfl := Option.some.inj h
    obtain ⟨before, after, htext⟩ :
        ∃ before after, definition.text = before ++ "->primary()" ++ after := by
      rw [ColumnDefinition.text, if_pos hprimary]
      exact ⟨_, _, String.append_assoc⟩
    change "->primary()".toList <:+: definition.text.toList
    rw [htext, String.toList_append, String.toList_append]
    exact ⟨before.toList, after.toList, rfl⟩
  | primaryKey names =>
    obtain rfl := Option.some.inj h
    exact List.infix_rfl
  | index name => exact absurd h (by simp [Statement.keyDeclaration?])
  | timestamps => exact absurd h (by simp [Statement.keyDeclaration?])

/-- The declaration that a column makes in its definition, as the only column of its key. -/
def inlineDeclaration? (keyCount : Nat) (c : Column) : Option KeyDeclaration :=
  if keyCount = 1 then (ColumnDefinition.ofColumn? 1 c).map .inline else none

theorem keyDeclarations_columnStatements :
    (columnStatements keyCount c).filterMap Statement.keyDeclaration? =
      (if c.isPrimaryKey then inlineDeclaration? keyCount c else none).toList := by
  rw [columnStatements]
  cases hdefinition : ColumnDefinition.ofColumn? keyCount c with
  | none =>
    have hnone : inlineDeclaration? keyCount c = none := by
      unfold inlineDeclaration?
      split_ifs with hone
      · rw [← hone, hdefinition, Option.map_none]
      · rfl
    rw [hnone, ite_self]
    rfl
  | some definition =>
    obtain ⟨-, rfl⟩ := ofColumn?_eq_some.mp hdefinition
    have hindex : (if c.wantsIndex then [Statement.index c.name] else []).filterMap
        Statement.keyDeclaration? = [] := by
      split_ifs <;> rfl
    dsimp only
    rw [List.filterMap_cons, hindex]
    by_cases hkey : c.isPrimaryKey = true
    · by_cases hone : keyCount = 1
      · subst hone
        simp [Statement.keyDeclaration?, inlineDeclaration?, hdefinition, hkey]
      · simp [Statement.keyDeclaration?, inlineDeclaration?, hone, hkey]
    · simp [Statement.keyDeclaration?, hkey]

end Migration

namespace CreationBlock

/-- The declarations of the key in a creation block. -/
def keyDeclarations (b : CreationBlock) : List KeyDeclaration :=
  b.statements.filterMap Statement.keyDeclaration?

/-- The key of a table is declared by its column if there is one, and by a list if there are
several. -/
theorem keyDeclarations_ofTable (foreignKeys : List ForeignKey) :
    (Migration.ofTable t foreignKeys).block.keyDeclarations =
      t.primaryKey.filterMap (inlineDeclaration? t.primaryKey.length) ++
        if 2 ≤ t.primaryKey.length then [.listed (t.primaryKey.map Column.name)] else [] := by
  have hcolumns : (t.columns.flatMap (columnStatements t.primaryKey.length)).filterMap
      Statement.keyDeclaration? =
        t.primaryKey.filterMap (inlineDeclaration? t.primaryKey.length) := by
    rw [List.filterMap_flatMap]
    simp only [keyDeclarations_columnStatements]
    rw [← List.filterMap_eq_flatMap_toList, ← List.filterMap_filter]
    rfl
  have hlisted : (compositeKey? (t.primaryKey.map Column.name)).toList.filterMap
      Statement.keyDeclaration? =
        if 2 ≤ t.primaryKey.length then [.listed (t.primaryKey.map Column.name)] else [] := by
    rw [compositeKey?, List.length_map]
    split_ifs <;> rfl
  have hlast : (if t.hasTimestamps then [Statement.timestamps] else []).filterMap
      Statement.keyDeclaration? = [] := by
    split_ifs <;> rfl
  change t.statements.filterMap Statement.keyDeclaration? = _
  rw [Table.statements, List.filterMap_append, List.filterMap_append, hcolumns, hlisted, hlast,
    List.append_nil]

theorem keyDeclarations_of_nil (foreignKeys : List ForeignKey) (h : t.primaryKey = []) :
    (Migration.ofTable t foreignKeys).block.keyDeclarations = [] := by
  rw [keyDeclarations_ofTable, h]
  rfl

theorem keyDeclarations_of_singleton (foreignKeys : List ForeignKey) (h : t.primaryKey = [c]) :
    (Migration.ofTable t foreignKeys).block.keyDeclarations =
      ((ColumnDefinition.ofColumn? 1 c).map KeyDeclaration.inline).toList := by
  rw [keyDeclarations_ofTable, h]
  cases hdefinition : ColumnDefinition.ofColumn? 1 c <;> simp [inlineDeclaration?, hdefinition]

theorem keyDeclarations_of_several (foreignKeys : List ForeignKey)
    (h : 2 ≤ t.primaryKey.length) :
    (Migration.ofTable t foreignKeys).block.keyDeclarations =
      [.listed (t.primaryKey.map Column.name)] := by
  have hnone : t.primaryKey.filterMap (inlineDeclaration? t.primaryKey.length) = [] := by
    refine List.filterMap_eq_nil_iff.mpr fun c _ ↦ ?_
    rw [inlineDeclaration?, if_neg (by omega)]
  rw [keyDeclarations_ofTable, hnone, if_pos h, List.nil_append]

/-- What is declared belongs to the key. -/
theorem exists_column_of_keyDeclarations {foreignKeys : List ForeignKey} {k : KeyDeclaration}
    (hk : k ∈ (Migration.ofTable t foreignKeys).block.keyDeclarations) {name : String}
    (hname : name ∈ k.columns) : ∃ c ∈ t.primaryKey, c.name = name := by
  rw [keyDeclarations_ofTable, List.mem_append] at hk
  rcases hk with hinline | hlisted
  · obtain ⟨c, hc, hdeclared⟩ := List.mem_filterMap.mp hinline
    unfold inlineDeclaration? at hdeclared
    split_ifs at hdeclared
    obtain ⟨definition, hdefinition, rfl⟩ := Option.map_eq_some_iff.mp hdeclared
    obtain ⟨-, rfl⟩ := ofColumn?_eq_some.mp hdefinition
    exact ⟨c, hc, (List.mem_singleton.mp hname).symm⟩
  · split_ifs at hlisted with hseveral
    · obtain rfl := List.mem_singleton.mp hlisted
      exact List.mem_map.mp hname
    · exact absurd hlisted List.not_mem_nil

/-- A column that is created has a name. -/
theorem isBlankText_of_creates {foreignKeys : List ForeignKey} {name : String}
    (h : (Migration.ofTable t foreignKeys).block.Creates name) : Text.isBlankText name = false := by
  rcases (creates_ofTable foreignKeys).mp h with ⟨c, -, ⟨-, hnamed⟩, rfl⟩ | ⟨-, rfl | rfl⟩
  · exact hnamed
  · decide
  · decide

theorem words_infix_statements {m : Migration} {k : KeyDeclaration}
    (hk : k ∈ m.block.keyDeclarations) (enumNamespace : String) :
    ∃ line ∈ (m.creation enumNamespace).statements, k.words.toList <:+: line.toList := by
  obtain ⟨statement, hmem, hdeclared⟩ := List.mem_filterMap.mp hk
  refine ⟨_, List.mem_map.mpr ⟨statement, hmem, rfl⟩, (words_infix_text hdeclared).trans ?_⟩
  rw [String.toList_append]
  exact (List.suffix_append _ _).isInfix

/-- Whether a block declares the key of a table as it should: not at all if no column belongs to it,
in the definition of the column if there is one, and in one statement that lists them in order if
there are several; and over columns that the block creates. -/
structure DeclaresKey (b : CreationBlock) (t : Table) : Prop where
  none : t.primaryKey = [] → b.keyDeclarations = []
  inline : ∀ c, t.primaryKey = [c] → ∃ definition,
    ColumnDefinition.ofColumn? 1 c = some definition ∧ definition.name = c.name ∧
      .column definition ∈ b.statements ∧ b.keyDeclarations = [.inline definition]
  listed : 2 ≤ t.primaryKey.length → b.keyDeclarations = [.listed (t.primaryKey.map Column.name)]
  created : ∀ k ∈ b.keyDeclarations, ∀ name ∈ k.columns, b.Creates name

/-- A key of one column is declared where the column is defined, if it is defined on its own. -/
theorem inline_of_singleton (foreignKeys : List ForeignKey) (h : t.primaryKey = [c])
    (htimestamp : c.isTimestamp = false) (hunnamed : c.isUnnamed = false) :
    ∃ definition, ColumnDefinition.ofColumn? 1 c = some definition ∧ definition.name = c.name ∧
      .column definition ∈ (Migration.ofTable t foreignKeys).block.statements ∧
      (Migration.ofTable t foreignKeys).block.keyDeclarations = [.inline definition] := by
  have hdefinition : ColumnDefinition.ofColumn? 1 c = some _ :=
    ofColumn?_eq_some.mpr ⟨⟨htimestamp, hunnamed⟩, rfl⟩
  have hc : c ∈ t.columns := by
    have hmem : c ∈ t.primaryKey := h ▸ List.mem_singleton_self c
    exact (List.mem_filter.mp hmem).1
  refine ⟨_, hdefinition, rfl, Table.column_mem_statements.mpr ⟨c, hc, ?_⟩, ?_⟩
  · rw [h]
    exact hdefinition
  · rw [keyDeclarations_of_singleton foreignKeys h, hdefinition]
    rfl

/-- What is declared is created if it has a name. -/
theorem creates_of_keyDeclarations {foreignKeys : List ForeignKey} {k : KeyDeclaration}
    (hk : k ∈ (Migration.ofTable t foreignKeys).block.keyDeclarations) {name : String}
    (hname : name ∈ k.columns) (hblank : Text.isBlankText name = false) :
    (Migration.ofTable t foreignKeys).block.Creates name := by
  obtain ⟨c, hc, rfl⟩ := exists_column_of_keyDeclarations hk hname
  exact creates_of_mem foreignKeys (List.mem_filter.mp hc).1 hblank

/-- The key of a table is declared as it should exactly if all of its columns have a name, and an
only one is no timestamp. -/
theorem declaresKey_iff (t : Table) (foreignKeys : List ForeignKey) :
    (Migration.ofTable t foreignKeys).block.DeclaresKey t ↔
      (∀ c ∈ t.primaryKey, c.isUnnamed = false) ∧
        ∀ c, t.primaryKey = [c] → c.isTimestamp = false := by
  constructor
  · intro h
    have hdefined : ∀ c, t.primaryKey = [c] → c.isTimestamp = false ∧ c.isUnnamed = false := by
      intro c hkey
      obtain ⟨definition, hdefinition, -⟩ := h.inline c hkey
      exact (ofColumn?_eq_some.mp hdefinition).1
    refine ⟨fun c hc ↦ ?_, fun c hkey ↦ (hdefined c hkey).1⟩
    rcases hkey : t.primaryKey with _ | ⟨first, _ | ⟨second, rest⟩⟩
    · rw [hkey] at hc
      exact absurd hc List.not_mem_nil
    · rw [hkey] at hc
      obtain rfl := List.mem_singleton.mp hc
      exact (hdefined c hkey).2
    · have hseveral : 2 ≤ t.primaryKey.length := by
        rw [hkey]
        simp
      have hlisted : .listed (t.primaryKey.map Column.name) ∈
          (Migration.ofTable t foreignKeys).block.keyDeclarations := by
        rw [h.listed hseveral]
        exact List.mem_singleton_self _
      exact isBlankText_of_creates (h.created _ hlisted c.name (List.mem_map_of_mem hc))
  · rintro ⟨hnamed, hdefined⟩
    refine ⟨keyDeclarations_of_nil foreignKeys, fun c hkey ↦ ?_,
      keyDeclarations_of_several foreignKeys, fun k hk name hname ↦ ?_⟩
    · have hc : c ∈ t.primaryKey := hkey ▸ List.mem_singleton_self c
      exact inline_of_singleton foreignKeys hkey (hdefined c hkey) (hnamed c hc)
    · obtain ⟨c, hc, rfl⟩ := exists_column_of_keyDeclarations hk hname
      exact creates_of_keyDeclarations hk hname (hnamed c hc)

end CreationBlock

/-- The key of a table is declared as it should, once and over created columns, exactly if all of
its columns have a name, and an only one is no timestamp. Otherwise the key is lost with its only
column, or the list of several names one that nothing creates. The statements are spelled out in the
lines of the table, with every declaration in one of them. -/
theorem primary_key_declared_iff (t : Table) (foreignKeys : List ForeignKey) :
    ((Migration.ofTable t foreignKeys).block.DeclaresKey t ↔
      (∀ c ∈ t.primaryKey, c.isUnnamed = false) ∧
        ∀ c, t.primaryKey = [c] → c.isTimestamp = false) ∧
      (∀ c, t.primaryKey = [c] → c.isTimestamp = true ∨ c.isUnnamed = true →
        (Migration.ofTable t foreignKeys).block.keyDeclarations = []) ∧
      (2 ≤ t.primaryKey.length → (Migration.ofTable t foreignKeys).block.keyDeclarations =
        [.listed (t.primaryKey.map Column.name)]) ∧
      (∀ k ∈ (Migration.ofTable t foreignKeys).block.keyDeclarations, ∀ name ∈ k.columns,
        (Migration.ofTable t foreignKeys).block.Creates name ↔ Text.isBlankText name = false) ∧
      ∀ enumNamespace,
        ((Migration.ofTable t foreignKeys).creation enumNamespace).text =
          (Migration.ofTable t foreignKeys).text enumNamespace ∧
        ((Migration.ofTable t foreignKeys).creation enumNamespace).statements = t.lines ∧
        (∀ k ∈ (Migration.ofTable t foreignKeys).block.keyDeclarations,
          ∃ line ∈ t.lines, k.words.toList <:+: line.toList) ∧
        ∀ name, (Migration.ofTable t foreignKeys).block.Creates name →
          ∃ line ∈ t.lines, CreatesColumn name line := by
  refine ⟨CreationBlock.declaresKey_iff t foreignKeys, fun c hkey hskipped ↦ ?_,
    CreationBlock.keyDeclarations_of_several foreignKeys, fun k hk name hname ↦
      ⟨CreationBlock.isBlankText_of_creates, CreationBlock.creates_of_keyDeclarations hk hname⟩,
    fun enumNamespace ↦ ?_⟩
  · have hnone : ColumnDefinition.ofColumn? 1 c = none := by
      rw [ColumnDefinition.ofColumn?, if_pos (by simpa using hskipped)]
    rw [CreationBlock.keyDeclarations_of_singleton foreignKeys hkey, hnone]
    rfl
  · have hstatements := Migration.statements_creation t foreignKeys enumNamespace
    refine ⟨Migration.text_creation _ _, hstatements, fun k hk ↦ ?_, fun name hcreates ↦ ?_⟩
    · rw [← hstatements]
      exact CreationBlock.words_infix_statements hk enumNamespace
    · obtain ⟨line, hline, hcreated⟩ := Migration.creates_creation hcreates enumNamespace
      exact ⟨line, hstatements ▸ hline, hcreated⟩

/-- A table all of whose columns belong to the key. -/
def Table.keyed (columns : List String) : Table where
  id := "a"
  name := "Audit"
  columns := columns.map fun name ↦ { name, type := .text, isPrimaryKey := true }

/-- Of the key of one column nothing is left if the column is a timestamp or has no name; and a
column without a name is listed among others, and not created. -/
theorem keys_without_columns :
    ((Table.keyed ["created_at"]).lines = ["            $table->timestamps();"] ∧
        ¬ (Migration.ofTable (.keyed ["created_at"]) []).block.DeclaresKey
          (.keyed ["created_at"])) ∧
      ((Table.keyed [" "]).lines = [] ∧
        ¬ (Migration.ofTable (.keyed [" "]) []).block.DeclaresKey (.keyed [" "])) ∧
      ((Table.keyed ["id", " "]).lines = ["            $table->text('id');",
          "            $table->primary(['id', '']);"] ∧
        ¬ (Migration.ofTable (.keyed ["id", " "]) []).block.DeclaresKey (.keyed ["id", " "])) := by
  refine ⟨⟨by decide, fun h ↦ ?_⟩, ⟨by decide, fun h ↦ ?_⟩, by decide, fun h ↦ ?_⟩
  · obtain ⟨-, hdefined⟩ := (CreationBlock.declaresKey_iff _ _).mp h
    exact absurd (hdefined _ rfl) (by decide)
  · obtain ⟨hnamed, -⟩ := (CreationBlock.declaresKey_iff _ _).mp h
    exact absurd hnamed (by decide)
  · obtain ⟨hnamed, -⟩ := (CreationBlock.declaresKey_iff _ _).mp h
    exact absurd hnamed (by decide)

end DiagramMigrations
