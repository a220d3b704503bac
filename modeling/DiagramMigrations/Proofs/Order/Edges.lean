import DiagramMigrations.Proofs.FirstOccurrence
import DiagramMigrations.Proofs.Order.Release

/-!
The edges of a list of associations. They form a simple graph whatever the associations are, and
when no two tables share an id an edge says that the table at its end refers to the table at its
start.
-/

set_option autoImplicit false
set_option relaxedAutoImplicit false

namespace DiagramMigrations.Order

/-- The table at one position refers to the table at another: there is an association from the id of
the one to the id of the other. -/
def RefersTo (tables : List Table) (associations : List Association) (i j : Nat) : Prop :=
  i ≠ j ∧ ∃ a ∈ associations, (tables[i]?).map Table.id = some a.referencingTable ∧
    (tables[j]?).map Table.id = some a.referencedTable

variable {tables : List Table} {associations : List Association}

/-- Positions of the same id are the same when ids are distinct. -/
theorem position_unique (hids : (tables.map Table.id).Nodup) {id : String} {i j : Nat}
    (hi : (tables[i]?).map Table.id = some id) (hj : (tables[j]?).map Table.id = some id) :
    i = j := by
  rw [← List.getElem?_map] at hi hj
  obtain ⟨hlt, -⟩ := List.getElem?_eq_some_iff.mp hi
  exact (List.getElem?_inj hlt hids).mp (hi.trans hj.symm)

/-- The same for the tables at the positions. -/
theorem place_unique (hids : (tables.map Table.id).Nodup) {i j : Nat} {t u : Table}
    (hi : tables[i]? = some t) (hj : tables[j]? = some u) (hid : t.id = u.id) : i = j := by
  have hfirst : (tables[i]?).map Table.id = some u.id := by rw [hi, Option.map_some, hid]
  have hsecond : (tables[j]?).map Table.id = some u.id := by rw [hj, Option.map_some]
  exact position_unique hids hfirst hsecond

theorem getElem?_of_position? {id : String} {i : Nat} (h : position? tables id = some i) :
    (tables[i]?).map Table.id = some id := by
  obtain ⟨⟨t, j⟩, hfind, rfl⟩ := Option.map_eq_some_iff.mp h
  have hmem := List.mem_reverse.mp (List.mem_of_find?_eq_some hfind)
  have hid := List.find?_some hfind
  rw [List.mem_zipIdx_iff_getElem?] at hmem
  simpa [hmem] using hid

/-- The position of an id is the position of the table that has it. -/
theorem position?_eq_some (hids : (tables.map Table.id).Nodup) {id : String} {i : Nat} :
    position? tables id = some i ↔ (tables[i]?).map Table.id = some id := by
  refine ⟨getElem?_of_position?, fun h ↦ ?_⟩
  obtain ⟨t, ht, hid⟩ := Option.map_eq_some_iff.mp h
  have hsome : (position? tables id).isSome := by
    rw [position?, Option.isSome_map, List.find?_isSome]
    refine ⟨(t, i), ?_, by simpa using hid⟩
    rw [List.mem_reverse, List.mem_zipIdx_iff_getElem?]
    exact ht
  obtain ⟨j, hj⟩ := Option.isSome_iff_exists.mp hsome
  rw [hj, position_unique hids (getElem?_of_position? hj) h]

theorem edge?_eq_some {a : Association} {e : Edge} : edge? tables a = some e ↔
    position? tables a.referencedTable = some e.1 ∧
      position? tables a.referencingTable = some e.2 ∧ e.1 ≠ e.2 := by
  obtain ⟨source, target⟩ := e
  unfold edge?
  cases position? tables a.referencedTable with
  | none => simp
  | some i =>
    cases position? tables a.referencingTable with
    | none => simp
    | some j =>
      by_cases hij : i = j
      · simpa [hij] using fun hsource htarget ↦ hsource.symm.trans htarget
      · simpa [hij] using fun hsource htarget ↦ hsource ▸ htarget ▸ hij

theorem edges_eq_foldl : edges tables associations =
    (associations.filterMap (edge? tables)).foldl (keepNew id) [] := by
  rw [edges, keepNew_id]
  congr!

theorem mem_edges {e : Edge} : e ∈ edges tables associations ↔
    ∃ a ∈ associations, edge? tables a = some e := by
  have hkeys := @mem_foldl_keepNew_keys Edge Edge _ id (associations.filterMap (edge? tables)) [] e
  simpa [← edges_eq_foldl] using hkeys

theorem edges_simple : Simple tables.length (edges tables associations) where
  nodup := by
    have hkeys : (((associations.filterMap (edge? tables)).foldl (keepNew id) []).map id).Nodup :=
      foldl_keepNew_keys_nodup _ List.nodup_nil
    rwa [List.map_id, ← edges_eq_foldl] at hkeys
  irrefl := by
    intro e he
    obtain ⟨a, -, ha⟩ := mem_edges.mp he
    exact (edge?_eq_some.mp ha).2.2
  bounded := by
    have hlt {id : String} {i : Nat} (h : position? tables id = some i) : i < tables.length := by
      obtain ⟨t, ht, -⟩ := Option.map_eq_some_iff.mp (getElem?_of_position? h)
      exact (List.getElem?_eq_some_iff.mp ht).1
    intro e he
    obtain ⟨a, -, ha⟩ := mem_edges.mp he
    obtain ⟨hsource, htarget, -⟩ := edge?_eq_some.mp ha
    exact ⟨hlt hsource, hlt htarget⟩

/-- An edge leads from a table to one that refers to it. -/
theorem mem_edges_iff_refersTo (hids : (tables.map Table.id).Nodup) {i j : Nat} :
    (j, i) ∈ edges tables associations ↔ RefersTo tables associations i j := by
  rw [mem_edges, RefersTo]
  constructor
  · rintro ⟨a, ha, hedge⟩
    obtain ⟨hsource, htarget, hne⟩ := edge?_eq_some.mp hedge
    exact ⟨hne.symm, a, ha, getElem?_of_position? htarget, getElem?_of_position? hsource⟩
  · rintro ⟨hne, a, ha, htarget, hsource⟩
    exact ⟨a, ha, edge?_eq_some.mpr ⟨(position?_eq_some hids).mpr hsource,
      (position?_eq_some hids).mpr htarget, hne.symm⟩⟩

end DiagramMigrations.Order
