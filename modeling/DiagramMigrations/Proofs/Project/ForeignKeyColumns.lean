import DiagramMigrations.Proofs.Project.ForeignKeys
import DiagramMigrations.Proofs.Schema.Selection
import DiagramMigrations.Proofs.Schema.Warnings
import DiagramMigrations.Proofs.Text.Blank

/-!
The columns that foreign keys connect. An end of an association never names a blank column, so that
a column which is declared under that name is also created: the foreign keys of a schema that is not
warned about lead from a created column to a created column.
-/

set_option autoImplicit false
set_option relaxedAutoImplicit false

namespace DiagramMigrations

theorem isBlankText_of_nonBlank? {text kept : String} (h : nonBlank? text = some kept) :
    Text.isBlankText kept = false := by
  have hkept : kept ≠ "" := nonBlank?_ne_empty h
  have htrimmed : Text.trimmed text = kept := by
    unfold nonBlank? at h
    dsimp only at h
    split_ifs at h
    exact Option.some.inj h
  rw [← htrimmed] at hkept ⊢
  exact Text.isBlankText_trimmed hkept

theorem Naming.isBlankText_foreignKeyColumn (name : String) :
    Text.isBlankText (foreignKeyColumn name) = false := by
  have hbar : Text.isBlank '_' = false := by decide
  simp [Text.isBlankText, foreignKeyColumn, hbar]

namespace Association

variable {tables : List Table} {e : Diagram.Association} {a : Association}

/-- The ends of an association name columns that are not blank. -/
theorem IsFrom.columns_named (h : a.IsFrom tables e) :
    Text.isBlankText a.referencingColumn = false ∧ Text.isBlankText a.referencedColumn = false := by
  obtain ⟨t, -, -, hreferencing⟩ := h.referencingColumn
  constructor
  · rw [hreferencing]
    cases hname : nonBlank? e.referencing.name with
    | none => exact Naming.isBlankText_foreignKeyColumn t.name
    | some name => exact isBlankText_of_nonBlank? hname
  · rw [h.referencedColumn]
    cases hname : nonBlank? e.referenced.name with
    | none => decide
    | some name => exact isBlankText_of_nonBlank? hname

end Association

namespace Schema

variable {d : Diagram} {a : Association} {t : Table}

theorem columns_named (ha : a ∈ (ofDiagram d).associations) :
    Text.isBlankText a.referencingColumn = false ∧ Text.isBlankText a.referencedColumn = false := by
  obtain ⟨e, -, he⟩ := List.mem_filterMap.mp ha
  exact (Association.ofDiagram?_isFrom he).columns_named

/-- Unless a column is missing, both ends of an association name columns that the migrations of
their tables create. -/
theorem ends_created (hsilent : (ofDiagram d).validate.IsSilentOn .missingForeignKeyColumn)
    (ha : a ∈ (ofDiagram d).associations) (ht : t ∈ (ofDiagram d).tables)
    (foreignKeys : List Migration.ForeignKey) :
    (t.id = a.referencingTable →
      (Migration.ofTable t foreignKeys).block.Creates a.referencingColumn) ∧
    (t.id = a.referencedTable →
      (Migration.ofTable t foreignKeys).block.Creates a.referencedColumn) := by
  have hids := ofDiagram_ids_nodup d
  obtain ⟨hreferencing, hreferenced⟩ := columns_declared hsilent ha
  obtain ⟨hfrom, hto⟩ := columns_named ha
  constructor
  · intro hid
    obtain ⟨c, hc⟩ := hreferencing t ((table?_eq_some hids).mpr ⟨ht, hid⟩)
    exact CreationBlock.creates_of_column? foreignKeys hc hfrom
  · intro hid
    obtain ⟨c, hc⟩ := hreferenced t ((table?_eq_some hids).mpr ⟨ht, hid⟩)
    exact CreationBlock.creates_of_column? foreignKeys hc hto

end Schema

/-! ### Foreign keys -/

namespace Context

variable {settings : Settings} {now : Timestamp} {d : Diagram} {c : Context} {t : Table}

/-- Whether a block in the migration of a table connects created columns, as an association has it:
a line before the block creates the column that it is declared on, and the migration of the
referenced table, which the block names by the literal there, has a line that creates the column
that it refers to. -/
def Connects (c : Context) (t : Table) (a : Association) (block : List String) : Prop :=
  (c.creation t).Creates a.referencingColumn ∧
    ∃ (place : Nat) (u : Table), c.tables[place]? = some u ∧ u.id = a.referencedTable ∧
      (c.creation u).Creates a.referencedColumn ∧
      block = foreignKeyBlock a.referencingColumn a.referencedColumn (c.creation u).literal

theorem blocks_connect (h : ofSchema settings now (Schema.ofDiagram d) = .ok c)
    (hsilent : (Schema.ofDiagram d).validate.IsSilentOn .missingForeignKeyColumn) {place : Nat}
    (ht : c.tables[place]? = some t) :
    List.Forall₂ (c.Connects t) ((Schema.ofDiagram d).outgoing t.id) (c.creation t).blocks := by
  have hids := Schema.ofDiagram_ids_nodup d
  have hclosed := Schema.ofDiagram_closed d
  have htable {i : Nat} {u : Table} (hu : c.tables[i]? = some u) :
      u ∈ (Schema.ofDiagram d).tables := (tables_perm h).mem_iff.mp (List.mem_of_getElem? hu)
  have houtgoing : ∀ a ∈ (Schema.ofDiagram d).outgoing t.id,
      a ∈ (Schema.ofDiagram d).associations ∧ t.id = a.referencingTable := by
    intro a ha
    obtain ⟨hmem, hid⟩ := List.mem_filter.mp ha
    exact ⟨hmem, (of_decide_eq_true hid).symm⟩
  refine ((List.forall₂_and_left _ _).mpr ⟨houtgoing, blocks_creation h hids hclosed ht⟩).imp ?_
  rintro a block ⟨⟨ha, hid⟩, i, u, hu, huid, -, rfl⟩
  have hcreated := Schema.ends_created hsilent ha (htable ht) (c.foreignKeys t)
  have hreferenced := Schema.ends_created hsilent ha (htable hu) (c.foreignKeys u)
  exact ⟨Migration.creates_creation (hcreated.1 hid) _, i, u, hu, huid,
    Migration.creates_creation (hreferenced.2 huid) _, rfl⟩

end Context

/-- Unless a column is missing, the foreign keys in the migrations of a project connect created
columns: each block is declared on a column that a line of the same migration creates, and refers to
a column that a line in the migration of the referenced table creates. -/
theorem foreign_keys_connect_created {settings : Settings} {now : Timestamp} {d : Diagram}
    {p : Project} (hp : Project.generate settings now (Schema.ofDiagram d) = .ok p)
    (hsilent : (Schema.ofDiagram d).validate.IsSilentOn .missingForeignKeyColumn) :
    ∃ c, Context.ofSchema settings now (Schema.ofDiagram d) = .ok c ∧
      p.filesOf .migration = c.migrationOutputs ∧
      ∀ place t, c.tables[place]? = some t →
        (c.migrationOutput t place).content = (c.creation t).text ∧
        List.Forall₂ (c.Connects t) ((Schema.ofDiagram d).outgoing t.id) (c.creation t).blocks ∧
        (c.creation t).lines.countP opensForeignKey = (c.creation t).blocks.length := by
  obtain ⟨-, -, c, hc, rfl⟩ := Project.generate_eq_ok.mp hp
  refine ⟨c, hc, Context.migrations_project _, fun place t ht ↦
    ⟨Context.content_migrationOutput t place, Context.blocks_connect hc hsilent ht, ?_⟩⟩
  rw [Context.countP_creation]
  exact (List.length_map _).symm

/-- A diagram on which a loan refers to its book twice: by a column that is named for the book, and
by a timestamp. -/
def Diagram.loans : Diagram where
  name := "Loans"
  elements := [
    .ofClass {
      id := "l"
      name := "Loan"
      classification := "table"
      attributes := [{ name := "book_id" }, { name := "updated_at" }]
      owned := [
        .association ⟨"r", ⟨"", "l"⟩, ⟨" code ", "b"⟩⟩,
        .association ⟨"", ⟨"updated_at", "l"⟩, ⟨"created_at", "b"⟩⟩] },
    .ofClass {
      id := "b"
      name := "Book"
      classification := "table"
      attributes := [{ name := "code" }, { name := "created_at" }] }]

/-- A witness: both foreign keys of a loan connect created columns. -/
theorem loan_foreign_keys_connect_created :
    ∃ p c, Project.generate {} ⟨0, 0, 0⟩ (Schema.ofDiagram .loans) = .ok p ∧
      (Schema.ofDiagram .loans).validate.IsSilentOn .missingForeignKeyColumn ∧
      Context.ofSchema {} ⟨0, 0, 0⟩ (Schema.ofDiagram .loans) = .ok c ∧
      ((Schema.ofDiagram .loans).outgoing "l").map Association.referencingColumn =
        ["book_id", "updated_at"] ∧
      c.tables.map Table.id = ["b", "l"] ∧
      ∀ place t, c.tables[place]? = some t →
        (c.migrationOutput t place).content = (c.creation t).text ∧
        List.Forall₂ (c.Connects t) ((Schema.ofDiagram .loans).outgoing t.id)
          (c.creation t).blocks := by
  have horder : dependencyOrder (Schema.ofDiagram .loans).tables
      (Schema.ofDiagram .loans).associations = .ok [1, 0] := by decide
  have hdefaults : Settings.fault? {} = none := by decide
  have hsilent : (Schema.ofDiagram .loans).validate.IsSilentOn .missingForeignKeyColumn := by decide
  obtain ⟨p, hp⟩ : ∃ p, Project.generate {} ⟨0, 0, 0⟩ (Schema.ofDiagram .loans) = .ok p :=
    Project.exists_generate hdefaults (by decide) horder
  obtain ⟨c, hc, -, hconnect⟩ := foreign_keys_connect_created hp hsilent
  have htables : (Context.ofSchema {} ⟨0, 0, 0⟩ (Schema.ofDiagram .loans)).map
      (fun c ↦ c.tables.map Table.id) = .ok ["b", "l"] := by decide
  rw [hc] at htables
  refine ⟨p, c, hp, hsilent, hc, by decide, Except.ok.inj htables, fun place t ht ↦ ?_⟩
  obtain ⟨hcontent, hblocks, -⟩ := hconnect place t ht
  exact ⟨hcontent, hblocks⟩

end DiagramMigrations
