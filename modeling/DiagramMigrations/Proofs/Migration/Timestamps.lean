import DiagramMigrations.Proofs.Migration.Columns
import DiagramMigrations.Proofs.Php.Literal
import DiagramMigrations.Schema.Extraction

/-!
The timestamps of a table. Both are created by one statement if a column has the name of one of them,
and such a column has no statement of its own. Names are compared as they are, though, and written
with their white space flattened: a name with white space around it is none of the two names, and is
defined under one of them all the same.
-/

set_option autoImplicit false
set_option relaxedAutoImplicit false

namespace DiagramMigrations

open Migration

variable {t : Table} {c : Column} {name : String}

/-- The names of the timestamps. -/
def isTimestampName (name : String) : Bool :=
  name = "created_at" || name = "updated_at"

theorem isTimestampName_iff :
    isTimestampName name = true ↔ name = "created_at" ∨ name = "updated_at" := by
  simp [isTimestampName]

namespace Column

/-- Whether the literal of a column's name stands for the name of a timestamp. -/
def readsAsTimestamp (c : Column) : Bool :=
  (Php.literalText? (Php.quote c.name)).any isTimestampName

theorem isTimestamp_eq (c : Column) : c.isTimestamp = isTimestampName c.name := rfl

/-- A literal stands for the name of a timestamp if the name is one once it is trimmed. -/
theorem readsAsTimestamp_iff :
    c.readsAsTimestamp = true ↔ isTimestampName (Text.trimmed c.name) = true := by
  have hcreated : Php.literalText? (Php.quote c.name) = some "created_at" ↔
      Text.trimmed c.name = "created_at" := Php.literalText?_quote_eq_iff (by decide) (by decide)
  have hupdated : Php.literalText? (Php.quote c.name) = some "updated_at" ↔
      Text.trimmed c.name = "updated_at" := Php.literalText?_quote_eq_iff (by decide) (by decide)
  rw [isTimestampName_iff, ← hcreated, ← hupdated, readsAsTimestamp, Option.any_eq_true]
  constructor
  · rintro ⟨found, hfound, hname⟩
    rw [hfound, Option.some.injEq, Option.some.injEq]
    exact isTimestampName_iff.mp hname
  · rintro (hfound | hfound)
    · exact ⟨_, hfound, by decide⟩
    · exact ⟨_, hfound, by decide⟩

theorem readsAsTimestamp_of_isTimestamp (h : c.isTimestamp = true) :
    c.readsAsTimestamp = true := by
  rw [isTimestamp_eq, isTimestampName_iff] at h
  rw [readsAsTimestamp]
  rcases h with hname | hname <;> rw [hname] <;> decide

/-- A name that is blank is not trimmed to that of a timestamp. -/
theorem isUnnamed_of_readsAsTimestamp (h : c.readsAsTimestamp = true) : c.isUnnamed = false := by
  rw [readsAsTimestamp_iff, isTimestampName_iff] at h
  refine Bool.eq_false_iff.mpr fun hblank ↦ ?_
  rw [Text.trimmed_of_isBlankText hblank] at h
  exact absurd h (by decide)

end Column

namespace Migration

/-- The literal in a definition is that of the column's name. -/
theorem firstArgument?_text (d : ColumnDefinition) :
    Php.firstArgument? d.text = Php.literalText? (Php.quote d.name) := by
  obtain ⟨call, rest, htext, hcall⟩ := d.exists_text_eq
  rw [htext, Php.firstArgument?_call call d.name rest hcall]

/-- Whether a statement defines a column under the name of a timestamp, as its literal reads. -/
def Statement.definesTimestamp : Statement → Bool
  | column definition => (Php.firstArgument? definition.text).any isTimestampName
  | index _ | primaryKey _ | timestamps => false

/-- Only the statement for the timestamps has its text. -/
theorem Statement.text_eq_timestamps_iff {statement : Statement} :
    statement.text = "$table->timestamps();" ↔ statement = .timestamps := by
  refine ⟨fun htext ↦ ?_, fun h ↦ h ▸ rfl⟩
  have hnone : Php.firstArgument? statement.text = none := by
    rw [htext]
    decide
  cases statement with
  | timestamps => rfl
  | column definition =>
    change Php.firstArgument? definition.text = none at hnone
    rw [firstArgument?_text, Php.literalText?_quote] at hnone
    exact absurd hnone (Option.some_ne_none _)
  | index column =>
    have hcall := Php.firstArgument?_call "$table->index" column ");" (by decide)
    rw [Php.literalText?_quote] at hcall
    exact absurd (hcall.symm.trans hnone) (Option.some_ne_none _)
  | primaryKey columns =>
    change "$table->primary(" ++ Php.textList columns ++ ");" = "$table->timestamps();" at htext
    have hchars := congrArg (fun text ↦ text.toList[8]?) htext
    simp at hchars

end Migration

namespace Table

/-- The statement for the timestamps stands once, if the table has one of them. -/
theorem count_timestamps :
    t.statements.count .timestamps = if t.hasTimestamps then 1 else 0 := by
  have hcolumns : .timestamps ∉ t.columns.flatMap (columnStatements t.primaryKey.length) := by
    simp [mem_columnStatements]
  have hkey : .timestamps ∉ (compositeKey? (t.primaryKey.map Column.name)).toList := by
    rw [compositeKey?]
    split_ifs <;> simp
  rw [statements, List.count_append, List.count_append, List.count_eq_zero_of_not_mem hcolumns,
    List.count_eq_zero_of_not_mem hkey]
  split_ifs <;> rfl

/-- A column is defined under the name of a timestamp if its literal reads as one and its name is
none. -/
theorem exists_definesTimestamp_iff : (∃ s ∈ t.statements, s.definesTimestamp = true) ↔
    ∃ c ∈ t.columns, c.readsAsTimestamp = true ∧ c.isTimestamp = false := by
  constructor
  · rintro ⟨s, hs, hdefines⟩
    cases s with
    | column definition =>
      obtain ⟨c, hc, hdefinition⟩ := column_mem_statements.mp hs
      obtain ⟨⟨htimestamp, -⟩, rfl⟩ := ofColumn?_eq_some.mp hdefinition
      rw [Statement.definesTimestamp, firstArgument?_text] at hdefines
      exact ⟨c, hc, hdefines, htimestamp⟩
    | index column => exact absurd hdefines Bool.false_ne_true
    | primaryKey columns => exact absurd hdefines Bool.false_ne_true
    | timestamps => exact absurd hdefines Bool.false_ne_true
  · rintro ⟨c, hc, hreads, htimestamp⟩
    have hdefinition : ColumnDefinition.ofColumn? t.primaryKey.length c = some _ :=
      ofColumn?_eq_some.mpr ⟨⟨htimestamp, Column.isUnnamed_of_readsAsTimestamp hreads⟩, rfl⟩
    refine ⟨_, column_mem_statements.mpr ⟨c, hc, hdefinition⟩, ?_⟩
    rw [Statement.definesTimestamp, firstArgument?_text]
    exact hreads

end Table

/-- The statement for the timestamps has a text of its own, so that counting texts counts it. -/
theorem Migration.count_text_timestamps (statements : List Statement) :
    (statements.map Statement.text).count "$table->timestamps();" =
      statements.count .timestamps := by
  rw [List.count, List.count, List.countP_map]
  refine List.countP_congr fun s _ ↦ ?_
  simp [Statement.text_eq_timestamps_iff]

/-- The timestamps of a table are created by their own statement alone, which stands once if a
column's literal reads as the name of one and not at all otherwise, exactly if no column's name is
one of the two with white space around it. -/
theorem timestamps_created_together_iff (t : Table) (foreignKeys : List ForeignKey) :
    ((∀ s ∈ (Migration.ofTable t foreignKeys).block.statements, s.definesTimestamp = false) ∧
        ((Migration.ofTable t foreignKeys).block.statements.map Statement.text).count
            "$table->timestamps();" =
          if t.columns.any Column.readsAsTimestamp then 1 else 0) ↔
      ∀ c ∈ t.columns, isTimestampName (Text.trimmed c.name) = true →
        Text.trimmed c.name = c.name := by
  have hnames : (∀ s ∈ t.statements, s.definesTimestamp = false) ↔
      ∀ c ∈ t.columns, c.readsAsTimestamp = true → c.isTimestamp = true := by
    rw [← not_iff_not]
    simpa using Table.exists_definesTimestamp_iff (t := t)
  have hcolumn (c : Column) : (c.readsAsTimestamp = true → c.isTimestamp = true) ↔
      (isTimestampName (Text.trimmed c.name) = true → Text.trimmed c.name = c.name) := by
    rw [Column.readsAsTimestamp_iff]
    refine forall_congr' fun hreads ↦ ⟨fun htimestamp ↦ ?_, fun hsame ↦ ?_⟩
    · rw [Column.isTimestamp_eq, isTimestampName_iff] at htimestamp
      rcases htimestamp with hname | hname <;> rw [hname] <;> decide
    · rw [Column.isTimestamp_eq, ← hsame]
      exact hreads
  change (∀ s ∈ t.statements, _) ∧ (t.statements.map Statement.text).count _ = _ ↔ _
  rw [Migration.count_text_timestamps, Table.count_timestamps, hnames]
  simp only [← hcolumn]
  refine and_iff_left_of_imp fun hall ↦ ?_
  have hany : t.hasTimestamps = t.columns.any Column.readsAsTimestamp := by
    rw [Bool.eq_iff_iff, Table.hasTimestamps, List.any_eq_true, List.any_eq_true]
    exact exists_congr fun c ↦ and_congr_right fun hc ↦
      ⟨Column.readsAsTimestamp_of_isTimestamp, hall c hc⟩
  rw [hany]

/-- Notes whose time of creation has a name with blanks around it. -/
def Diagram.notes : Diagram where
  elements := [.ofClass {
    id := "n"
    name := "Note"
    classification := "table"
    attributes := [{ name := " created_at ", declaredType := .name "timestamp" }] }]

/-- A name with blanks around it is not taken for that of a timestamp, and is one in the statement
that defines the column. -/
theorem padded_timestamp_defined :
    ∃ t ∈ (Schema.ofDiagram .notes).tables,
      t.columns.any Column.readsAsTimestamp = true ∧
        (Migration.ofTable t []).block.statements.map Statement.text =
          ["$table->timestamp('created_at');"] ∧
        (∃ s ∈ (Migration.ofTable t []).block.statements, s.definesTimestamp = true) ∧
        ((Migration.ofTable t []).block.statements.map Statement.text).count
          "$table->timestamps();" = 0 := by
  refine ⟨_, List.mem_singleton_self _, ?_⟩
  decide

end DiagramMigrations
