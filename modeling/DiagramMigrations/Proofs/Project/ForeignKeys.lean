import DiagramMigrations.Proofs.Lists
import DiagramMigrations.Proofs.Project.Generation
import Mathlib

/-!
The foreign keys of the migrations of a project. Every association of the schema becomes one of
them, and there are no others.
-/

set_option autoImplicit false
set_option relaxedAutoImplicit false

namespace DiagramMigrations

section Lists

variable {α κ : Type} [DecidableEq κ]

/-- What is taken from a list for each of its keys is the list, in another order. -/
theorem flatMap_filter_perm (key : α → κ) {keys : List κ} (hnodup : keys.Nodup) {xs : List α}
    (hmem : ∀ x ∈ xs, key x ∈ keys) : (keys.flatMap fun k ↦ xs.filter (key · = k)).Perm xs := by
  induction keys generalizing xs with
  | nil =>
    rw [List.eq_nil_iff_forall_not_mem.mpr fun x hx ↦ List.not_mem_nil (hmem x hx)]
    exact List.Perm.refl _
  | cons k rest ih =>
    obtain ⟨hfresh, hrest⟩ := List.nodup_cons.mp hnodup
    have hothers : ∀ x ∈ xs.filter (fun x ↦ !decide (key x = k)), key x ∈ rest := by
      intro x hx
      obtain ⟨hxs, hne⟩ := List.mem_filter.mp hx
      exact (List.mem_cons.mp (hmem x hxs)).resolve_left (by simpa using hne)
    have hsame : (rest.flatMap fun l ↦ xs.filter (key · = l)) =
        rest.flatMap fun l ↦ (xs.filter fun x ↦ !decide (key x = k)).filter (key · = l) := by
      refine List.flatMap_congr fun l hl ↦ ?_
      rw [List.filter_filter]
      refine List.filter_congr fun x _ ↦ ?_
      by_cases hxl : key x = l
      · have hlk : l ≠ k := fun heq ↦ hfresh (heq ▸ hl)
        simp [hxl, hlk]
      · simp [hxl]
    rw [List.flatMap_cons, hsame]
    exact ((ih hrest hothers).append_left _).trans (List.filter_append_perm _ xs)

end Lists

namespace Context

variable {settings : Settings} {now : Timestamp} {s : Schema} {c : Context}

/-- Whether a foreign key of the migration at a place is what becomes of an association: it names
the table that the migration of the referenced table creates, and that migration comes before, or is
the same if the association leads from a table to itself. -/
def Realises (c : Context) (place : Nat) (a : Association) (k : Migration.ForeignKey) : Prop :=
  ∃ (i : Nat) (t : Table), c.tables[i]? = some t ∧ t.id = a.referencedTable ∧
    (i < place ∨ i = place ∧ a.referencingTable = a.referencedTable) ∧
      k = .ofAssociation a (c.migration t).tableName

theorem referencedName?_eq_some (h : ofSchema settings now s = .ok c)
    (hids : (s.tables.map Table.id).Nodup) {t : Table} (ht : t ∈ c.tables) {a : Association}
    (hid : t.id = a.referencedTable) : c.referencedName? a = some (c.migration t).tableName := by
  rw [(tables_perm h).mem_iff] at ht
  rw [referencedName?, (table?_eq_some h hids).mpr ⟨ht, hid⟩]
  rfl

/-- Every association becomes a foreign key of the migration of its referencing table. -/
theorem exists_realising (h : ofSchema settings now s = .ok c)
    (hids : (s.tables.map Table.id).Nodup) (hclosed : s.Closed) {a : Association}
    (ha : a ∈ s.associations) {place : Nat} {u : Table} (hu : c.tables[place]? = some u)
    (huid : u.id = a.referencingTable) :
    ∃ k, (c.referencedName? a).map (Migration.ForeignKey.ofAssociation a) = some k ∧
      c.Realises place a k := by
  by_cases hself : a.referencingTable = a.referencedTable
  · rw [referencedName?_eq_some h hids (List.mem_of_getElem? hu) (huid.trans hself)]
    exact ⟨_, rfl, place, u, hu, huid.trans hself, Or.inr ⟨rfl, hself⟩, rfl⟩
  · obtain ⟨i, j, t, v, hij, ht, htid, hv, hvid⟩ := referenced_before h hids hclosed ha hself
    have hplace : j = place :=
      DiagramMigrations.Order.place_unique (tables_ids_nodup h hids) hv hu (hvid.trans huid.symm)
    rw [referencedName?_eq_some h hids (List.mem_of_getElem? ht) htid]
    exact ⟨_, rfl, i, t, ht, htid, Or.inl (hplace ▸ hij), rfl⟩

/-- The foreign keys of a table are its outgoing associations, in their order. -/
theorem foreignKeys_realise (h : ofSchema settings now s = .ok c)
    (hids : (s.tables.map Table.id).Nodup) (hclosed : s.Closed) {place : Nat} {t : Table}
    (ht : c.tables[place]? = some t) :
    List.Forall₂ (c.Realises place) (s.outgoing t.id) (c.foreignKeys t) := by
  rw [foreignKeys, outgoing_eq h]
  refine forall₂_filterMap fun a ha ↦ ?_
  obtain ⟨hmem, hid⟩ := List.mem_filter.mp ha
  exact exists_realising h hids hclosed hmem ht (of_decide_eq_true hid).symm

/-- Every association goes out from one of the tables. -/
theorem outgoing_perm (h : ofSchema settings now s = .ok c)
    (hids : (s.tables.map Table.id).Nodup) (hclosed : s.Closed) :
    (c.tables.flatMap fun t ↦ s.outgoing t.id).Perm s.associations := by
  have hmem : ∀ a ∈ s.associations, a.referencingTable ∈ c.tables.map Table.id := by
    intro a ha
    rw [((tables_perm h).map Table.id).mem_iff]
    exact (hclosed a ha).1
  have hperm := flatMap_filter_perm Association.referencingTable (tables_ids_nodup h hids) hmem
  rwa [List.flatMap_map] at hperm

/-- There are as many foreign keys as associations. -/
theorem sum_foreignKeys (h : ofSchema settings now s = .ok c)
    (hids : (s.tables.map Table.id).Nodup) (hclosed : s.Closed) :
    (c.tables.map fun t ↦ (c.foreignKeys t).length).sum = s.associations.length := by
  rw [← (outgoing_perm h hids hclosed).length_eq, List.length_flatMap]
  refine congrArg List.sum (List.map_congr_left fun t ht ↦ ?_)
  obtain ⟨place, hplace⟩ := List.mem_iff_getElem?.mp ht
  exact (foreignKeys_realise h hids hclosed hplace).length_eq.symm

end Context

/-- Whether a block in the migration at a place is what becomes of an association: its four lines
name both columns, and the table by the literal under which the migration of the referenced table
creates it; that migration comes before, or is the same if the association leads from a table to
itself. -/
def Context.IsBlockOf (c : Context) (place : Nat) (a : Association) (block : List String) : Prop :=
  ∃ (i : Nat) (t : Table), c.tables[i]? = some t ∧ t.id = a.referencedTable ∧
    (i < place ∨ i = place ∧ a.referencingTable = a.referencedTable) ∧
      block = foreignKeyBlock a.referencingColumn a.referencedColumn (c.creation t).literal

theorem Context.blocks_creation {settings : Settings} {now : Timestamp} {s : Schema} {c : Context}
    (h : ofSchema settings now s = .ok c) (hids : (s.tables.map Table.id).Nodup)
    (hclosed : s.Closed) {place : Nat} {t : Table} (ht : c.tables[place]? = some t) :
    List.Forall₂ (c.IsBlockOf place) (s.outgoing t.id) (c.creation t).blocks := by
  refine List.forall₂_map_right_iff.mpr ((foreignKeys_realise h hids hclosed ht).imp ?_)
  rintro a k ⟨i, u, hu, huid, hplace, rfl⟩
  exact ⟨i, u, hu, huid, hplace, rfl⟩

/-- No foreign key is lost, made twice or left without a table. The lines of each migration hold a
block for each association of its table, in their order, and no other line opens a foreign key; the
literal of the table in a block is the one under which an earlier migration, or the same one,
creates the table that the association refers to. -/
theorem foreign_keys_complete {settings : Settings} {now : Timestamp} {d : Diagram} {p : Project}
    (hp : Project.generate settings now (Schema.ofDiagram d) = .ok p) :
    ∃ c, Context.ofSchema settings now (Schema.ofDiagram d) = .ok c ∧
      c.tables.Perm (Schema.ofDiagram d).tables ∧
      p.files.take c.tables.length = c.migrationOutputs ∧
      p.filesOf .migration = c.migrationOutputs ∧
      (∀ place t, c.tables[place]? = some t →
        (c.migrationOutput t place).content = (c.creation t).text ∧
        (c.creation t).literal = Php.quote (Naming.identifier t.name) ∧
        List.Forall₂ (c.IsBlockOf place) ((Schema.ofDiagram d).outgoing t.id)
          (c.creation t).blocks ∧
        (c.creation t).lines.countP opensForeignKey =
          ((Schema.ofDiagram d).outgoing t.id).length) ∧
      (c.tables.flatMap fun t ↦ (Schema.ofDiagram d).outgoing t.id).Perm
        (Schema.ofDiagram d).associations ∧
      (c.tables.map fun t ↦ (c.creation t).lines.countP opensForeignKey).sum =
        (Schema.ofDiagram d).associations.length := by
  obtain ⟨-, -, c, hc, rfl⟩ := Project.generate_eq_ok.mp hp
  have hids := Schema.ofDiagram_ids_nodup d
  have hclosed := Schema.ofDiagram_closed d
  refine ⟨c, hc, Context.tables_perm hc, ?_, Context.migrations_project _,
    fun place t ht ↦ ⟨Context.content_migrationOutput t place, rfl,
      Context.blocks_creation hc hids hclosed ht, ?_⟩, Context.outgoing_perm hc hids hclosed, ?_⟩
  · rw [← Context.length_migrationOutputs]
    exact List.take_left
  · rw [Context.countP_creation, (Context.foreignKeys_realise hc hids hclosed ht).length_eq]
  · simp only [Context.countP_creation]
    exact Context.sum_foreignKeys hc hids hclosed

/-- A witness: the account has its two foreign keys in the second migration, one of them to the
zone, which the first migration creates. -/
theorem account_foreign_keys :
    ∃ p c, Project.generate {} ⟨0, 0, 0⟩ (Schema.ofDiagram .zones) = .ok p ∧
      Context.ofSchema {} ⟨0, 0, 0⟩ (Schema.ofDiagram .zones) = .ok c ∧
      c.tables.map Table.id = ["z", "a"] ∧
      (∀ place t, c.tables[place]? = some t →
        (c.migrationOutput t place).content = (c.creation t).text ∧
        List.Forall₂ (c.IsBlockOf place) ((Schema.ofDiagram .zones).outgoing t.id)
          (c.creation t).blocks) ∧
      (c.tables.map fun t ↦ (c.creation t).lines.countP opensForeignKey).sum = 2 := by
  obtain ⟨p, hp⟩ := Project.generate_zones none ⟨0, 0, 0⟩
  obtain ⟨c, hc, -, -, -, hkeys, -, hsum⟩ := foreign_keys_complete hp
  have htables : (Context.ofSchema {} ⟨0, 0, 0⟩ (Schema.ofDiagram .zones)).map
      (fun c ↦ c.tables.map Table.id) = .ok ["z", "a"] := by decide
  rw [hc] at htables
  refine ⟨p, c, hp, hc, Except.ok.inj htables, fun place t ht ↦ ?_, hsum⟩
  obtain ⟨hcontent, -, hblocks, -⟩ := hkeys place t ht
  exact ⟨hcontent, hblocks⟩

end DiagramMigrations
