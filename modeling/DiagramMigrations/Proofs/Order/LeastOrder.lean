import DiagramMigrations.Proofs.Order.Acyclic
import Mathlib.Data.List.Lex
import Mathlib.Order.Bounds.Basic

/-!
The order of creation is the best of all orders that could be taken. At the first place where
another order differs, it has a position that was open to the choice too, and so a later one on the
diagram.
-/

set_option autoImplicit false
set_option relaxedAutoImplicit false

namespace DiagramMigrations.Order

variable {n : Nat} {es : List Edge} {placed : List Nat}

/-- In a legal order, each position belongs to the frontier of those before it. -/
theorem Legal.head_mem_frontier {node : Nat} {rest : List Nat}
    (h : Legal n es (placed ++ node :: rest)) : node ∈ frontier n es placed := by
  have hnode : node ∈ placed ++ node :: rest :=
    List.mem_append_right _ List.mem_cons_self
  have hfresh : node ∉ placed := fun hplaced ↦
    (List.nodup_append.mp h.nodup).2.2 node hplaced node List.mem_cons_self rfl
  refine mem_frontier.mpr ⟨h.bounded node hnode, hfresh, fun e he htarget ↦ ?_⟩
  by_contra hlate
  obtain ⟨-, hbefore⟩ := h.ordered e he (htarget ▸ hnode)
  rw [htarget, List.idxOf_append_of_notMem hlate, List.idxOf_append_of_notMem hfresh,
    List.idxOf_cons_self] at hbefore
  omega

/-- Of all legal ways to go on, the choice at each turn takes the least. -/
theorem Follows.le {order other : List Nat} (h : Follows n es placed order)
    (hother : Legal n es (placed ++ other)) (hlength : order.length = other.length) :
    order ≤ other := by
  induction order generalizing placed other with
  | nil =>
    obtain rfl := List.length_eq_zero_iff.mp hlength.symm
    exact le_rfl
  | cons node rest ih =>
    cases other with
    | nil => cases hlength
    | cons first others =>
      obtain ⟨⟨-, hleast⟩, hrest⟩ := h
      rcases (hleast first hother.head_mem_frontier).lt_or_eq with hlt | rfl
      · exact le_of_lt (List.Lex.rel hlt)
      · refine List.cons_le_cons node (ih hrest ?_ (Nat.succ.inj hlength))
        rwa [List.append_assoc]

/-- Where nothing waits, the positions follow in their own order. -/
theorem follows_range (k m : Nat) (h : k + m = n) :
    Follows n [] (List.range k) (List.range' k m) := by
  induction m generalizing k with
  | zero => exact trivial
  | succ m ih =>
    refine ⟨⟨mem_frontier.mpr ⟨by omega, by simp, by simp⟩, fun i hi ↦ ?_⟩, ?_⟩
    · have hfresh := (mem_frontier.mp hi).2.1
      rwa [List.mem_range, not_lt] at hfresh
    · rw [← List.range_succ]
      exact ih (k + 1) (by omega)

variable {tables : List Table} {associations : List Association} {order : List Nat}

/-- Whether an order could be taken for the creation: it has every table once, and each table after
those that it refers to. -/
structure IsCreationOrder (tables : List Table) (associations : List Association)
    (order : List Nat) : Prop where
  eachOnce : order.Perm (List.range tables.length)
  referencedFirst : ∀ i j, RefersTo tables associations i j → order.idxOf j < order.idxOf i

theorem IsCreationOrder.length_eq (h : IsCreationOrder tables associations order) :
    order.length = tables.length := by
  rw [h.eachOnce.length_eq, List.length_range]

theorem IsCreationOrder.legal (hids : (tables.map Table.id).Nodup)
    (h : IsCreationOrder tables associations order) :
    Legal tables.length (edges tables associations) order where
  nodup := h.eachOnce.nodup_iff.mpr List.nodup_range
  bounded i hi := List.mem_range.mp (h.eachOnce.subset hi)
  ordered e he _ := by
    have hsource : e.1 ∈ order := by
      rw [h.eachOnce.mem_iff, List.mem_range]
      exact (edges_simple.bounded e he).1
    exact ⟨hsource, h.referencedFirst _ _ ((mem_edges_iff_refersTo hids).mp he)⟩

theorem isCreationOrder_of_ok (hids : (tables.map Table.id).Nodup)
    (h : dependencyOrder tables associations = .ok order) :
    IsCreationOrder tables associations order :=
  ⟨dependencyOrder_perm h, fun _ _ ↦ dependencyOrder_respects hids h⟩

/-- The order of creation comes before every other one that could be taken. -/
theorem le_of_isCreationOrder (hids : (tables.map Table.id).Nodup)
    (h : dependencyOrder tables associations = .ok order) {other : List Nat}
    (hother : IsCreationOrder tables associations other) : order ≤ other := by
  have hlength := (isCreationOrder_of_ok hids h).length_eq.trans hother.length_eq.symm
  obtain ⟨rfl, -⟩ := dependencyOrder_eq_ok.mp h
  exact follows_placement.le (hother.legal hids) hlength

/-- If any order can be taken, there is an order of creation. -/
theorem exists_order_of_isCreationOrder (hids : (tables.map Table.id).Nodup)
    (h : IsCreationOrder tables associations order) :
    ∃ best, dependencyOrder tables associations = .ok best := by
  refine exists_order_of_acyclic hids ?_
  rintro ⟨i, hcycle⟩
  rw [← edge_eq_refersTo hids] at hcycle
  refine (h.legal hids).acyclic (fun e he ↦ ?_) i hcycle
  rw [h.eachOnce.mem_iff, List.mem_range]
  exact (edges_simple.bounded e he).2

/-- Tables that do not refer to each other are placed as they stand. -/
theorem placement_of_unrelated (hids : (tables.map Table.id).Nodup)
    (h : ∀ i j, ¬ RefersTo tables associations i j) :
    placement tables associations = List.range tables.length := by
  have hnone : edges tables associations = [] := List.eq_nil_iff_forall_not_mem.mpr fun e he ↦
    h e.2 e.1 ((mem_edges_iff_refersTo hids).mp he)
  have hfollows := follows_range 0 tables.length (Nat.zero_add _)
  rw [← hnone, ← List.range_eq_range'] at hfollows
  exact hfollows.eq_placement List.length_range

end DiagramMigrations.Order

namespace DiagramMigrations

open DiagramMigrations.Order

variable {tables : List Table} {associations : List Association}

/-- The order of creation is the lexicographically least of all orders that have every table once
and each table after those that it refers to; if there is no such order, there is no order of
creation. If no two tables are related, it is the order of the diagram. -/
theorem dependencyOrder_isLeast (hids : (tables.map Table.id).Nodup) :
    (∀ order, dependencyOrder tables associations = .ok order ↔
        IsLeast {other | IsCreationOrder tables associations other} order) ∧
      ((∀ i j, ¬ RefersTo tables associations i j) →
        dependencyOrder tables associations = .ok (List.range tables.length)) := by
  refine ⟨fun order ↦ ⟨fun h ↦ ?_, fun h ↦ ?_⟩, fun hunrelated ↦ ?_⟩
  · exact ⟨isCreationOrder_of_ok hids h, fun other ↦ le_of_isCreationOrder hids h⟩
  · obtain ⟨best, hbest⟩ := exists_order_of_isCreationOrder hids h.1
    have hleast : IsLeast {other | IsCreationOrder tables associations other} best :=
      ⟨isCreationOrder_of_ok hids hbest, fun other ↦ le_of_isCreationOrder hids hbest⟩
    rw [hbest, hleast.unique h]
  · exact dependencyOrder_eq_ok.mpr
      ⟨placement_of_unrelated hids hunrelated, List.length_range.ge⟩

/-- Of four tables, the first and the third refer to the last, and the second to itself only. -/
theorem tied_isLeast :
    ([⟨"x", "X", []⟩, ⟨"w", "W", []⟩, ⟨"y", "Y", []⟩, ⟨"z", "Z", []⟩].map Table.id).Nodup ∧
      IsLeast {other | IsCreationOrder
        [⟨"x", "X", []⟩, ⟨"w", "W", []⟩, ⟨"y", "Y", []⟩, ⟨"z", "Z", []⟩]
        [⟨"a1", "y", "z_id", "z", "id"⟩, ⟨"a2", "w", "w_id", "w", "id"⟩,
          ⟨"a3", "x", "z_id", "z", "id"⟩] other} [1, 3, 0, 2] := by
  have hids : ([⟨"x", "X", []⟩, ⟨"w", "W", []⟩, ⟨"y", "Y", []⟩, ⟨"z", "Z", []⟩].map
      Table.id).Nodup := by decide
  have horder : dependencyOrder [⟨"x", "X", []⟩, ⟨"w", "W", []⟩, ⟨"y", "Y", []⟩, ⟨"z", "Z", []⟩]
      [⟨"a1", "y", "z_id", "z", "id"⟩, ⟨"a2", "w", "w_id", "w", "id"⟩,
        ⟨"a3", "x", "z_id", "z", "id"⟩] = .ok [1, 3, 0, 2] := by decide
  exact ⟨hids, ((dependencyOrder_isLeast hids).1 _).mp horder⟩

end DiagramMigrations
