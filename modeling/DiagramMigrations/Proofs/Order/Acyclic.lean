import DiagramMigrations.Proofs.Order.Edges
import DiagramMigrations.Proofs.Order.Placement
import Mathlib.Data.Fintype.Basic
import Mathlib.Data.Fintype.Card
import Mathlib.Data.Fintype.EquivFin
import Mathlib.Logic.Relation
import Mathlib.Order.WellFounded

/-!
The placement of tables succeeds exactly when no table refers to itself through others. Where the
placement gets stuck, every position that is left waits for another one that is left, and in a
finite graph such positions close a cycle.
-/

set_option autoImplicit false
set_option relaxedAutoImplicit false

namespace DiagramMigrations.Order

open Relation

/-- Finitely many positions, each related to one of them, contain a cycle. -/
theorem exists_cycle {r : Nat → Nat → Prop} {p : Nat → Prop} {n : Nat} (hbound : ∀ i, p i → i < n)
    (hnext : ∀ i, p i → ∃ j, p j ∧ r i j) {start : Nat} (hstart : p start) :
    ∃ i, p i ∧ TransGen r i i := by
  by_contra hnone
  -- Without a cycle, what can be reached is later, and of finitely many positions one is last.
  let later (i j : {i : Fin n // p i}) : Prop := TransGen r j.1 i.1
  have : IsTrans _ later := ⟨fun _ _ _ hij hjk ↦ hjk.trans hij⟩
  have : Std.Irrefl later := ⟨fun i hi ↦ hnone ⟨i.1, i.2, hi⟩⟩
  have hwf : WellFounded later := Finite.wellFounded_of_trans_of_irrefl later
  obtain ⟨last, -, hlast⟩ := hwf.has_min Set.univ ⟨⟨⟨start, hbound start hstart⟩, hstart⟩, trivial⟩
  obtain ⟨j, hj, hr⟩ := hnext last.1 last.2
  exact hlast ⟨⟨j, hbound j hj⟩, hj⟩ trivial (TransGen.single hr)

variable {n : Nat} {es : List Edge} {placed : List Nat}

/-- Without a frontier, every position that is left waits for another one that is left. -/
theorem exists_waiting_of_stuck (hes : Simple n es) (hstuck : frontier n es placed = []) {i : Nat}
    (hi : i < n ∧ i ∉ placed) : ∃ j, (j < n ∧ j ∉ placed) ∧ (j, i) ∈ es := by
  by_contra hnone
  have hmem : i ∈ frontier n es placed := by
    refine mem_frontier.mpr ⟨hi.1, hi.2, fun e he htarget ↦ ?_⟩
    by_contra hsource
    exact hnone ⟨e.1, ⟨(hes.bounded e he).1, hsource⟩, htarget ▸ he⟩
  rw [hstuck] at hmem
  exact List.not_mem_nil hmem

/-- In a legal order, what a placed position waits for, itself or through others, is placed before
it. -/
theorem Legal.before (h : Legal n es placed) {i j : Nat}
    (hij : TransGen (fun i j ↦ (j, i) ∈ es) i j) (hi : i ∈ placed) :
    j ∈ placed ∧ placed.idxOf j < placed.idxOf i := by
  induction hij with
  | single hedge => exact h.ordered _ hedge hi
  | tail _ hedge ih =>
    obtain ⟨hj, hbefore⟩ := ih
    obtain ⟨hk, hless⟩ := h.ordered _ hedge hj
    exact ⟨hk, hless.trans hbefore⟩

/-- A position that is placed in a legal order does not wait for itself through others. -/
theorem Legal.not_cycle (h : Legal n es placed) {i : Nat} (hi : i ∈ placed) :
    ¬ TransGen (fun i j ↦ (j, i) ∈ es) i i :=
  fun hcycle ↦ lt_irrefl _ (h.before hcycle hi).2

/-- Of positions that are placed in a legal order, none waits for itself through others. -/
theorem Legal.acyclic (h : Legal n es placed) (hall : ∀ e ∈ es, e.2 ∈ placed) (i : Nat) :
    ¬ TransGen (fun i j ↦ (j, i) ∈ es) i i := by
  intro hcycle
  obtain ⟨j, hedge, -⟩ := TransGen.head'_iff.mp hcycle
  exact h.not_cycle (hall _ hedge) hcycle

/-- As many distinct positions as there are below a bound are all of them. -/
theorem Legal.perm_range (h : Legal n es placed) (hlength : n ≤ placed.length) :
    placed.Perm (List.range n) := by
  refine (List.subperm_of_subset h.nodup fun i hi ↦ ?_).perm_of_length_le ?_
  · exact List.mem_range.mpr (h.bounded i hi)
  · rwa [List.length_range]

/-- Fewer positions than there are below a bound leave one out. -/
theorem exists_unplaced (hlength : placed.length < n) :
    ∃ i, i < n ∧ i ∉ placed := by
  by_contra hnone
  have hsubset : List.range n ⊆ placed := by
    intro i hi
    by_contra hfresh
    exact hnone ⟨i, List.mem_range.mp hi, hfresh⟩
  have hle := (List.subperm_of_subset List.nodup_range hsubset).length_le
  rw [List.length_range] at hle
  exact absurd hlength (Nat.not_lt.mpr hle)

variable {tables : List Table} {associations : List Association}

theorem placement_eq_greedy : placement tables associations =
    greedy tables.length (edges tables associations) tables.length := by
  rw [placement, rounds_start edges_simple]
  rfl

theorem follows_placement : Follows tables.length (edges tables associations) []
    (placement tables associations) := by
  rw [placement_eq_greedy]
  exact follows_greedy _

/-- What follows the choice at each turn, and leaves no table out, is the placement. -/
theorem Follows.eq_placement {order : List Nat}
    (h : Follows tables.length (edges tables associations) [] order)
    (hlength : order.length = tables.length) : placement tables associations = order := by
  have horder := h.eq_greedy
  rwa [hlength, ← placement_eq_greedy, eq_comm] at horder

theorem placement_legal :
    Legal tables.length (edges tables associations) (placement tables associations) := by
  rw [placement_eq_greedy]
  exact greedy_legal _

/-- A placement that leaves tables out is stuck. -/
theorem placement_stuck (hshort : (placement tables associations).length < tables.length) :
    frontier tables.length (edges tables associations) (placement tables associations) = [] := by
  rw [placement_eq_greedy] at hshort ⊢
  exact (greedy_length_or_stuck _).resolve_left hshort.ne

end DiagramMigrations.Order

namespace DiagramMigrations

open DiagramMigrations.Order Relation

variable {tables : List Table} {associations : List Association}

theorem dependencyOrder_eq_ok {order : List Nat} :
    dependencyOrder tables associations = .ok order ↔
      placement tables associations = order ∧ tables.length ≤ order.length := by
  unfold dependencyOrder
  dsimp only
  split_ifs with hshort
  · simp only [false_iff, not_and, not_le]
    rintro rfl
    exact hshort
  · simp only [Except.ok.injEq, iff_self_and]
    rintro rfl
    exact Nat.le_of_not_lt hshort

/-- Without an order of creation, the tables that the placement leaves out are named. -/
theorem dependencyOrder_eq_error_iff {failure : Failure} :
    dependencyOrder tables associations = .error failure ↔
      (placement tables associations).length < tables.length ∧ failure = .dependencyCycle
        ((tables.zipIdx.filter fun entry ↦ entry.2 ∉ placement tables associations).map
          fun entry ↦ entry.1.name) := by
  unfold dependencyOrder
  dsimp only
  split_ifs with hshort
  · simp only [Except.error.injEq, hshort, true_and, eq_comm]
  · simp only [hshort, false_and]

/-- The order of creation has every position once. -/
theorem dependencyOrder_perm {order : List Nat}
    (h : dependencyOrder tables associations = .ok order) :
    order.Perm (List.range tables.length) := by
  obtain ⟨rfl, hlength⟩ := dependencyOrder_eq_ok.mp h
  exact placement_legal.perm_range hlength

theorem edge_eq_refersTo (hids : (tables.map Table.id).Nodup) :
    (fun i j ↦ (j, i) ∈ edges tables associations) = RefersTo tables associations := by
  funext i j
  exact propext (mem_edges_iff_refersTo hids)

/-- Every edge ends at a table that the order of creation has. -/
theorem target_mem_order {order : List Nat} (h : dependencyOrder tables associations = .ok order)
    (e : Edge) (he : e ∈ edges tables associations) : e.2 ∈ order := by
  rw [(dependencyOrder_perm h).mem_iff, List.mem_range]
  exact (edges_simple.bounded e he).2

/-- In the order of creation, a table comes after the tables it refers to. -/
theorem dependencyOrder_respects (hids : (tables.map Table.id).Nodup) {order : List Nat}
    (h : dependencyOrder tables associations = .ok order) {i j : Nat}
    (hij : RefersTo tables associations i j) : order.idxOf j < order.idxOf i := by
  have htarget := target_mem_order h
  obtain ⟨rfl, -⟩ := dependencyOrder_eq_ok.mp h
  have hedge := (mem_edges_iff_refersTo hids).mpr hij
  exact (placement_legal.ordered _ hedge (htarget _ hedge)).2

/-- Where there is an order of creation, no table refers to itself through others. -/
theorem not_cycle_of_order (hids : (tables.map Table.id).Nodup) {order : List Nat}
    (h : dependencyOrder tables associations = .ok order) (i : Nat) :
    ¬ TransGen (RefersTo tables associations) i i := by
  have htarget := target_mem_order h
  obtain ⟨rfl, -⟩ := dependencyOrder_eq_ok.mp h
  rw [← edge_eq_refersTo hids]
  exact placement_legal.acyclic htarget i

/-- Where no table refers to itself through others, there is an order of creation. -/
theorem exists_order_of_acyclic (hids : (tables.map Table.id).Nodup)
    (hacyclic : ¬ ∃ i, TransGen (RefersTo tables associations) i i) :
    ∃ order, dependencyOrder tables associations = .ok order := by
  refine ⟨_, dependencyOrder_eq_ok.mpr ⟨rfl, ?_⟩⟩
  by_contra hshort
  have hstuck := placement_stuck (not_le.mp hshort)
  obtain ⟨start, hstart⟩ := exists_unplaced (not_le.mp hshort)
  obtain ⟨i, -, hcycle⟩ := exists_cycle (fun _ hi ↦ hi.1)
    (fun _ hi ↦ exists_waiting_of_stuck edges_simple hstuck hi) hstart
  rw [edge_eq_refersTo hids] at hcycle
  exact hacyclic ⟨i, hcycle⟩

/-- There is an order of creation exactly when no table refers to itself through other tables, and
it creates every table once, after all that it refers to. -/
theorem dependencyOrder_ok_iff_acyclic (hids : (tables.map Table.id).Nodup) :
    ((∃ order, dependencyOrder tables associations = .ok order) ↔
        ¬ ∃ i, TransGen (RefersTo tables associations) i i) ∧
      ∀ order, dependencyOrder tables associations = .ok order →
        order.Perm (List.range tables.length) ∧
          ∀ i j, RefersTo tables associations i j → order.idxOf j < order.idxOf i := by
  refine ⟨⟨?_, exists_order_of_acyclic hids⟩, fun order horder ↦ ?_⟩
  · rintro ⟨order, horder⟩ ⟨i, hcycle⟩
    exact not_cycle_of_order hids horder i hcycle
  · exact ⟨dependencyOrder_perm horder, fun i j ↦ dependencyOrder_respects hids horder⟩

/-- Employees refer to their manager, twice to a department and once to a table that is not there;
nothing of this is a cycle, and departments come first. -/
theorem staff_acyclic :
    ([⟨"e", "Employee", []⟩, ⟨"d", "Department", []⟩].map Table.id).Nodup ∧
      ¬ (∃ i, TransGen (RefersTo [⟨"e", "Employee", []⟩, ⟨"d", "Department", []⟩]
        [⟨"a1", "e", "manager_id", "e", "id"⟩, ⟨"a2", "e", "department_id", "d", "id"⟩,
          ⟨"a3", "e", "deputy_id", "d", "id"⟩, ⟨"a4", "e", "site_id", "s", "id"⟩]) i i) ∧
      [1, 0].Perm (List.range 2) := by
  have hids : ([⟨"e", "Employee", []⟩, ⟨"d", "Department", []⟩].map Table.id).Nodup := by decide
  have horder : dependencyOrder [⟨"e", "Employee", []⟩, ⟨"d", "Department", []⟩]
      [⟨"a1", "e", "manager_id", "e", "id"⟩, ⟨"a2", "e", "department_id", "d", "id"⟩,
        ⟨"a3", "e", "deputy_id", "d", "id"⟩, ⟨"a4", "e", "site_id", "s", "id"⟩] =
      .ok [1, 0] := by decide
  exact ⟨hids, (dependencyOrder_ok_iff_acyclic hids).1.mp ⟨_, horder⟩,
    ((dependencyOrder_ok_iff_acyclic hids).2 _ horder).1⟩

end DiagramMigrations
