import DiagramMigrations.Proofs.Order.Acyclic
import Mathlib.Data.Set.Basic

/-!
The order of creation depends on which ids are connected, and on nothing else about the
associations. Lists of associations that connect the same ids may differ in their order, in
repetitions, in the columns, in associations of a table with itself and in associations with tables
that are not there: the same edges wait for the placement, whatever order they are counted off in,
and every round finds the same frontier.
-/

set_option autoImplicit false
set_option relaxedAutoImplicit false

namespace DiagramMigrations.Order

/-- The pairs of different ids that associations connect, first that of the table referred to. Both
belong to tables of the list; several tables may share one. -/
def linked (tables : List Table) (associations : List Association) : Set (String × String) :=
  {pair | pair.1 ≠ pair.2 ∧ pair.1 ∈ tables.map Table.id ∧ pair.2 ∈ tables.map Table.id ∧
    ∃ a ∈ associations, (a.referencedTable, a.referencingTable) = pair}

variable {tables : List Table} {associations first second : List Association}

theorem mem_ids_of_position? {id : String} {i : Nat} (h : position? tables id = some i) :
    id ∈ tables.map Table.id := by
  obtain ⟨t, ht, hid⟩ := Option.map_eq_some_iff.mp (getElem?_of_position? h)
  exact hid ▸ List.mem_map_of_mem (List.mem_of_getElem? ht)

/-- Different ids have different positions. -/
theorem position_ne {id other : String} {i j : Nat} (hne : id ≠ other)
    (hi : position? tables id = some i) (hj : position? tables other = some j) : i ≠ j := by
  rintro rfl
  have hboth := (getElem?_of_position? hi).symm.trans (getElem?_of_position? hj)
  exact hne (Option.some.inj hboth)

/-- The edges are those between the positions of connected ids. -/
theorem mem_edges_iff_linked {i j : Nat} : (i, j) ∈ edges tables associations ↔
    ∃ pair ∈ linked tables associations,
      position? tables pair.1 = some i ∧ position? tables pair.2 = some j := by
  rw [mem_edges]
  constructor
  · rintro ⟨a, ha, hedge⟩
    obtain ⟨hsource, htarget, hne⟩ := edge?_eq_some.mp hedge
    refine ⟨(a.referencedTable, a.referencingTable), ⟨fun hsame ↦ hne ?_,
      mem_ids_of_position? hsource, mem_ids_of_position? htarget, a, ha, rfl⟩, hsource, htarget⟩
    dsimp only at hsame
    rw [hsame, htarget] at hsource
    exact (Option.some.inj hsource).symm
  · rintro ⟨pair, ⟨hne, -, -, a, ha, rfl⟩, hsource, htarget⟩
    exact ⟨a, ha, edge?_eq_some.mpr ⟨hsource, htarget, position_ne hne hsource htarget⟩⟩

variable {n : Nat} {es fs : List Edge}

/-- The frontier depends on which edges there are, not on their order. -/
theorem frontier_congr (h : ∀ e, e ∈ es ↔ e ∈ fs) (placed : List Nat) :
    frontier n es placed = frontier n fs placed := by
  refine frontier_ascending.eq_of_mem_iff frontier_ascending fun i ↦ ?_
  rw [mem_frontier, mem_frontier]
  exact and_congr_right fun _ ↦ and_congr_right fun _ ↦ forall_congr' fun e ↦ imp_congr_left (h e)

/-- So does what any number of rounds places. -/
theorem greedy_congr (h : ∀ e, e ∈ es ↔ e ∈ fs) (k : Nat) : greedy n es k = greedy n fs k := by
  induction k with
  | zero => rfl
  | succ k ih => rw [greedy, greedy, ih, frontier_congr h]

theorem placement_congr (h : linked tables first = linked tables second) :
    placement tables first = placement tables second := by
  have hedges : ∀ e, e ∈ edges tables first ↔ e ∈ edges tables second := fun e ↦ by
    rw [mem_edges_iff_linked, mem_edges_iff_linked, h]
  rw [placement_eq_greedy, placement_eq_greedy, greedy_congr hedges]

end DiagramMigrations.Order

namespace DiagramMigrations

open DiagramMigrations.Order

variable {tables : List Table} {first second : List Association}

/-- Associations that connect the same ids lead to the same order of creation, or to the same
failure. The ids of the tables need not be distinct. -/
theorem dependencyOrder_congr (h : linked tables first = linked tables second) :
    dependencyOrder tables first = dependencyOrder tables second := by
  unfold dependencyOrder
  rw [placement_congr h]

/-- A customer and a client share an id. -/
def clients : List Table :=
  [⟨"o", "Order", []⟩, ⟨"c", "Customer", []⟩, ⟨"c", "Client", []⟩, ⟨"n", "Note", []⟩]

/-- An order refers to a client, and a note to an order. -/
def clientLinks : List Association :=
  [⟨"a1", "o", "client_id", "c", "id"⟩, ⟨"a2", "n", "order_id", "o", "id"⟩]

/-- The same with repetitions, with tables that refer to themselves, and with a user that is not
there. -/
def redrawnLinks : List Association := [
  ⟨"b1", "n", "order", "o", "code"⟩, ⟨"b2", "c", "parent_id", "c", "id"⟩,
  ⟨"b3", "o", "payer_id", "c", "id"⟩, ⟨"b4", "n", "user_id", "u", "id"⟩,
  ⟨"b5", "o", "buyer_id", "c", "id"⟩, ⟨"b6", "o", "earlier_id", "o", "id"⟩]

/-- Both lists of links connect the same ids, and so they put the clients in the same order. -/
theorem clients_ordered_alike :
    linked clients redrawnLinks = linked clients clientLinks ∧
      dependencyOrder clients clientLinks = .ok [1, 2, 0, 3] ∧
      dependencyOrder clients redrawnLinks = .ok [1, 2, 0, 3] := by
  have hlinked : linked clients redrawnLinks = linked clients clientLinks := by
    ext ⟨referenced, referencing⟩
    simp only [linked, clients, redrawnLinks, clientLinks, Set.mem_ofPred_eq, List.map_cons,
      List.map_nil, List.mem_cons, List.not_mem_nil, or_false, exists_eq_or_imp, exists_eq_left,
      Prod.mk.injEq]
    grind
  have horder : dependencyOrder clients clientLinks = .ok [1, 2, 0, 3] := by decide
  exact ⟨hlinked, horder, (dependencyOrder_congr hlinked).trans horder⟩

end DiagramMigrations
