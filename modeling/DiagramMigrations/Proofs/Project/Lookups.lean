import DiagramMigrations.Proofs.Except
import DiagramMigrations.Proofs.Project.Context

/-!
Look-ups by position. A context keeps positions in the reordered tables and in the associations; each
of them leads to what it was stored for, and so the context finds what a search of the schema finds.
-/

set_option autoImplicit false
set_option relaxedAutoImplicit false

namespace DiagramMigrations.Context

/-- Whether every position that an index of associations holds for a table is that of an association
in which the table holds the foreign key. -/
def Leads (associations : List Association) (index : List (String × List Nat)) : Prop :=
  ∀ table positions, (table, positions) ∈ index → ∀ i ∈ positions,
    ∃ h : i < associations.length, associations[i].referencingTable = table

/-- Whether the look-ups of a context find what the schema has, and no position that it keeps is out
of range or that of something else. -/
structure Mirrors (c : Context) (s : Schema) : Prop where
  table : ∀ id, c.table? id = s.table? id
  outgoing : ∀ id, c.outgoing id = s.outgoing id
  referencedName : ∀ a, c.referencedName? a =
    (s.table? a.referencedTable).map fun t ↦ Naming.identifier t.name
  positions : ∀ id i, (id, i) ∈ c.positions → ∃ h : i < c.tables.length, c.tables[i].id = id
  outgoingPositions : Leads c.associations c.outgoingPositions

variable {settings : Settings} {now : Timestamp} {s : Schema} {c : Context}
  {associations : List Association} {index : List (String × List Nat)}

theorem leads_nil : Leads associations [] :=
  fun _ _ hmem ↦ absurd hmem List.not_mem_nil

theorem leads_cons {table : String} {positions : List Nat} :
    Leads associations ((table, positions) :: index) ↔
      (∀ i ∈ positions, ∃ h : i < associations.length,
        associations[i].referencingTable = table) ∧ Leads associations index := by
  constructor
  · intro h
    exact ⟨h table positions List.mem_cons_self,
      fun other others hmem ↦ h other others (List.mem_cons_of_mem _ hmem)⟩
  · rintro ⟨hfirst, hrest⟩ other others hmem
    rcases List.mem_cons.mp hmem with heq | hmem
    · obtain ⟨rfl, rfl⟩ := Prod.mk.inj heq
      exact hfirst
    · exact hrest other others hmem

/-- The position of an association may be added for its referencing table. -/
theorem Leads.addPosition (h : Leads associations index) {a : Association} {i : Nat}
    (hi : associations[i]? = some a) :
    Leads associations (addPosition a.referencingTable i index) := by
  have hnew : ∃ h : i < associations.length,
      associations[i].referencingTable = a.referencingTable := by
    obtain ⟨hlt, rfl⟩ := List.getElem?_eq_some_iff.mp hi
    exact ⟨hlt, rfl⟩
  induction index with
  | nil => exact leads_cons.mpr ⟨fun j hj ↦ List.mem_singleton.mp hj ▸ hnew, leads_nil⟩
  | cons entry rest ih =>
    obtain ⟨table, positions⟩ := entry
    obtain ⟨hfirst, hrest⟩ := leads_cons.mp h
    unfold Context.addPosition
    split_ifs with hkey
    · refine leads_cons.mpr ⟨fun j hj ↦ ?_, hrest⟩
      rcases List.mem_append.mp hj with hold | hadded
      · exact hfirst j hold
      · exact hkey ▸ List.mem_singleton.mp hadded ▸ hnew
    · exact leads_cons.mpr ⟨hfirst, ih hrest⟩

/-- So may those of a list of associations, one after the other. -/
theorem Leads.foldl_addPosition {entries : List (Association × Nat)}
    (hentries : ∀ entry ∈ entries, associations[entry.2]? = some entry.1)
    (h : Leads associations index) : Leads associations (entries.foldl
      (fun index (a, i) ↦ Context.addPosition a.referencingTable i index) index) := by
  induction entries generalizing index with
  | nil => exact h
  | cons entry rest ih =>
    exact ih (fun other hother ↦ hentries other (List.mem_cons_of_mem _ hother))
      (h.addPosition (hentries entry List.mem_cons_self))

theorem leads_outgoingPositionsOf (associations : List Association) :
    Leads associations (outgoingPositionsOf associations) :=
  leads_nil.foldl_addPosition fun _ hentry ↦ List.mem_zipIdx_iff_getElem?.mp hentry

/-- Of distinct ids, the context finds the table of each where the schema does. -/
theorem table?_eq (h : ofSchema settings now s = .ok c) (hids : (s.tables.map Table.id).Nodup)
    (id : String) : c.table? id = s.table? id := by
  refine Option.ext fun t ↦ ?_
  rw [table?_eq_some h hids, Schema.table?, find?_key_eq_some hids]

/-- Whatever the order of creation, the context finds by position what the schema finds by search:
the table of an id, the associations that leave a table, in order, and the name of a table that is
referred to. No position that it keeps is out of range. -/
theorem ofSchema_mirrors (h : ofSchema settings now s = .ok c)
    (hids : (s.tables.map Table.id).Nodup) : c.Mirrors s where
  table := table?_eq h hids
  outgoing := outgoing_eq h
  referencedName a := by rw [referencedName?, table?_eq h hids]
  positions id i hmem := by
    rw [positions_eq h, mem_positionsOf] at hmem
    obtain ⟨t, ht, hid⟩ := Option.map_eq_some_iff.mp hmem
    obtain ⟨hlt, rfl⟩ := List.getElem?_eq_some_iff.mp ht
    exact ⟨hlt, hid⟩
  outgoingPositions := by
    obtain ⟨order, -, rfl⟩ := ofSchema_eq_ok.mp h
    exact leads_outgoingPositionsOf s.associations

/-- A library: a loan is of a copy and may extend a loan, a copy is of a book, and a note is of
something that is not there. -/
def library : Schema where
  name := "Library"
  tables := [⟨"l", "Loan", []⟩, ⟨"c", "Book Copy", []⟩, ⟨"n", "Note", []⟩, ⟨"b", "Book", []⟩]
  associations := [⟨"a1", "c", "book_id", "b", "id"⟩, ⟨"a2", "l", "copy_id", "c", "id"⟩,
    ⟨"a3", "n", "subject_id", "x", "id"⟩, ⟨"a4", "l", "extends_id", "l", "id"⟩]

/-- A witness: the tables of the library are created in another order, in which the positions by id
are found. -/
theorem library_mirrored :
    ∃ c, ofSchema {} ⟨0, 0, 0⟩ library = .ok c ∧ (library.tables.map Table.id).Nodup ∧
      c.tables.map Table.id = ["n", "b", "c", "l"] ∧ c.positions.lookup "l" = some 3 ∧
      c.outgoingPositions.lookup "l" = some [1, 3] ∧ c.Mirrors library := by
  have hids : (library.tables.map Table.id).Nodup := by decide
  have hkept : (ofSchema {} ⟨0, 0, 0⟩ library).map (fun c ↦
      (c.tables.map Table.id, c.positions.lookup "l", c.outgoingPositions.lookup "l")) =
        .ok (["n", "b", "c", "l"], some 3, some [1, 3]) := by decide
  obtain ⟨c, hc, hparts⟩ := map_eq_ok.mp hkept
  obtain ⟨htables, hposition, houtgoing⟩ : _ ∧ _ ∧ _ := by simpa using hparts
  exact ⟨c, hc, hids, htables, hposition, houtgoing, ofSchema_mirrors hc hids⟩

end DiagramMigrations.Context
