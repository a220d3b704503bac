import DiagramMigrations.Proofs.Order.Edges

/-!
Collecting edges. Before the placement, the associations are gone through once: an edge that is new
adds its target to those of its source and one to the count of its target. Since nothing is added for
a repeated edge, the targets and the counts are those of the edges, each taken once.
-/

set_option autoImplicit false
set_option relaxedAutoImplicit false

namespace DiagramMigrations.Order

/-- What is collected: the edges, for each position the targets of the edges that leave it, and the
number of those that enter it. -/
structure Tally where
  edges : List Edge
  targets : List (List Nat)
  counts : List Nat
  deriving DecidableEq, Repr

namespace Tally

/-- Before the first edge. -/
def empty (n : Nat) : Tally where
  edges := []
  targets := List.replicate n []
  counts := List.replicate n 0

/-- Collects an edge, unless it is there already. -/
def add (t : Tally) (e : Edge) : Tally :=
  if e ∈ t.edges then t
  else {
    edges := t.edges ++ [e]
    targets := t.targets.modify e.1 fun targets ↦ targets ++ [e.2]
    counts := t.counts.modify e.2 fun count ↦ count + 1 }

/-- The tally of edges between positions below `n`. -/
def ofEdges (n : Nat) (es : List Edge) : Tally where
  edges := es
  targets := (List.range n).map (successors es)
  counts := (List.range n).map (inDegree es)

variable {n : Nat} {es : List Edge} {e : Edge}

theorem ofEdges_nil (n : Nat) : ofEdges n [] = empty n := by
  have hnone : successors [] = fun _ ↦ [] := rfl
  have hzero : inDegree [] = fun _ ↦ 0 := rfl
  rw [ofEdges, empty, hnone, hzero, List.map_const', List.map_const', List.length_range]

/-- Changing the element at a position of a list that is made of its positions. -/
theorem modify_map_range {α : Type} (f : Nat → α) (g : α → α) (i : Nat) :
    ((List.range n).map f).modify i g = (List.range n).map fun j ↦ if j = i then g (f j) else f j := by
  refine List.ext_getElem (by simp) fun j hj _ ↦ ?_
  rw [List.getElem_modify]
  simp [eq_comm]

theorem add_ofEdges (he : e ∉ es) : (ofEdges n es).add e = ofEdges n (es ++ [e]) := by
  have htargets : successors (es ++ [e]) =
      fun j ↦ if j = e.1 then successors es j ++ [e.2] else successors es j := by
    funext j
    by_cases hj : j = e.1
    · simp [successors, hj]
    · simp [successors, hj, Ne.symm hj]
  have hcounts : inDegree (es ++ [e]) = fun j ↦ if j = e.2 then inDegree es j + 1 else inDegree es j := by
    funext j
    by_cases hj : j = e.2
    · simp [inDegree, hj]
    · simp [inDegree, hj, Ne.symm hj]
  have hadd : (ofEdges n es).add e = ⟨es ++ [e],
      ((List.range n).map (successors es)).modify e.1 fun targets ↦ targets ++ [e.2],
      ((List.range n).map (inDegree es)).modify e.2 fun count ↦ count + 1⟩ := if_neg he
  rw [hadd, modify_map_range, modify_map_range, ofEdges, htargets, hcounts]

/-- Whatever is collected, the tally stays that of the edges. -/
theorem foldl_add_ofEdges (xs es : List Edge) :
    xs.foldl add (ofEdges n es) = ofEdges n (xs.foldl (keepNew id) es) := by
  induction xs generalizing es with
  | nil => rfl
  | cons e rest ih =>
    have hstep : (ofEdges n es).add e = ofEdges n (keepNew id es e) := by
      rw [keepNew, List.map_id, id]
      split_ifs with he
      · exact if_pos he
      · exact add_ofEdges he
    rw [List.foldl_cons, List.foldl_cons, hstep, ih]

/-- The tally of the edges that associations give, one after the other. -/
theorem foldl_add_edges (tables : List Table) (associations : List Association) :
    (associations.filterMap (edge? tables)).foldl add (empty n) =
      ofEdges n (Order.edges tables associations) := by
  rw [← ofEdges_nil, foldl_add_ofEdges, edges_eq_foldl]

end Tally

end DiagramMigrations.Order
