import DiagramMigrations.Proofs.Order.Release
import Mathlib.Data.List.Induction

/-!
The placement by rounds. A round places the first position of the frontier, the positions whose
predecessors are all placed, and leaves a sweep that the placed positions determine; so a run comes
to the list that takes the first position of the frontier again and again.
-/

set_option autoImplicit false
set_option relaxedAutoImplicit false

namespace DiagramMigrations.Order

/-- The positions that can be placed next: all that they wait for is placed. -/
def frontier (n : Nat) (es : List Edge) (placed : List Nat) : List Nat :=
  (List.range n).filter fun i ↦ i ∉ placed ∧ ∀ e ∈ es, e.2 = i → e.1 ∈ placed

/-- The edges that leave the placed positions. -/
def leaving (es : List Edge) (placed : List Nat) : List Edge :=
  es.filter fun e ↦ e.1 ∈ placed

variable {n : Nat} {es released : List Edge} {placed : List Nat}

theorem mem_frontier {i : Nat} : i ∈ frontier n es placed ↔
    i < n ∧ i ∉ placed ∧ ∀ e ∈ es, e.2 = i → e.1 ∈ placed := by
  simp [frontier]

theorem frontier_ascending : (frontier n es placed).Pairwise (· < ·) :=
  List.pairwise_lt_range.filter _

theorem mem_leaving {e : Edge} : e ∈ leaving es placed ↔ e ∈ es ∧ e.1 ∈ placed := by
  simp [leaving]

/-- Once the edges that leave the placed positions are counted off, the ready positions are those
of the frontier. -/
theorem unblocked_leaving : unblocked n es (leaving es placed) placed = frontier n es placed := by
  refine unblocked_ascending.eq_of_mem_iff frontier_ascending fun i ↦ ?_
  rw [mem_unblocked, mem_frontier]
  refine and_congr_right fun _ ↦ and_congr_right fun _ ↦ forall_congr' fun e ↦
    forall_congr' fun he ↦ imp_congr_right fun _ ↦ ?_
  simp [mem_leaving, he]

/-- The ready positions without the first, which is placed. -/
theorem unblocked_append_head {node : Nat} {rest : List Nat}
    (h : unblocked n es released placed = node :: rest) :
    unblocked n es released (placed ++ [node]) = rest := by
  have hascending : (node :: rest).Pairwise (· < ·) := h ▸ unblocked_ascending
  have hmem (i : Nat) : i ∈ unblocked n es released placed ↔ i = node ∨ i ∈ rest := by
    rw [h, List.mem_cons]
  refine unblocked_ascending.eq_of_mem_iff hascending.of_cons fun i ↦ ?_
  constructor
  · intro hi
    obtain ⟨hin, hfresh, hdone⟩ := mem_unblocked.mp hi
    rw [List.mem_append, List.mem_singleton, not_or] at hfresh
    exact ((hmem i).mp (mem_unblocked.mpr ⟨hin, hfresh.1, hdone⟩)).resolve_left hfresh.2
  · intro hi
    obtain ⟨hin, hfresh, hdone⟩ := mem_unblocked.mp ((hmem i).mpr (Or.inr hi))
    refine mem_unblocked.mpr ⟨hin, ?_, hdone⟩
    rw [List.mem_append, List.mem_singleton, not_or]
    exact ⟨hfresh, (List.rel_of_pairwise_cons hascending hi).ne'⟩

/-- Positions that are placed after everything they wait for. -/
structure Legal (n : Nat) (es : List Edge) (placed : List Nat) : Prop where
  nodup : placed.Nodup
  bounded : ∀ i ∈ placed, i < n
  ordered : ∀ e ∈ es, e.2 ∈ placed → e.1 ∈ placed ∧ placed.idxOf e.1 < placed.idxOf e.2

theorem Legal.nil : Legal n es [] where
  nodup := List.nodup_nil
  bounded := by simp
  ordered := by simp

/-- A position of the frontier can be placed next. -/
theorem Legal.append (h : Legal n es placed) {node : Nat} (hnode : node ∈ frontier n es placed) :
    Legal n es (placed ++ [node]) := by
  obtain ⟨hlt, hfresh, hdone⟩ := mem_frontier.mp hnode
  refine ⟨?_, ?_, ?_⟩
  · rw [← List.concat_eq_append]
    exact h.nodup.concat hfresh
  · intro i hi
    rcases List.mem_append.mp hi with hi | hi
    · exact h.bounded i hi
    · exact List.mem_singleton.mp hi ▸ hlt
  · intro e he htarget
    rcases List.mem_append.mp htarget with hold | hnew
    · obtain ⟨hsource, hbefore⟩ := h.ordered e he hold
      refine ⟨List.mem_append_left _ hsource, ?_⟩
      rwa [List.idxOf_append_of_mem hsource, List.idxOf_append_of_mem hold]
    · rw [List.mem_singleton] at hnew
      have hsource := hdone e he hnew
      refine ⟨List.mem_append_left _ hsource, ?_⟩
      rw [List.idxOf_append_of_mem hsource, hnew, List.idxOf_append_of_notMem hfresh]
      exact (List.idxOf_lt_length_of_mem hsource).trans_le (Nat.le_add_right _ _)

/-- The edges that leave a position of the frontier are still to be counted off, for positions that
are not placed. -/
theorem fresh_of_mem_frontier (hes : Simple n es) (hlegal : Legal n es placed) {node : Nat}
    (hnode : node ∈ frontier n es placed) : ∀ e ∈ es.filter (fun e ↦ e.1 = node),
      e ∈ es ∧ e ∉ leaving es placed ∧ e.2 ∉ placed ++ [node] := by
  obtain ⟨-, hfresh, -⟩ := mem_frontier.mp hnode
  intro e he
  obtain ⟨hmem, hsource⟩ := List.mem_filter.mp he
  rw [decide_eq_true_eq] at hsource
  refine ⟨hmem, fun hleft ↦ hfresh (hsource ▸ (mem_leaving.mp hleft).2), fun htarget ↦ ?_⟩
  rcases List.mem_append.mp htarget with hold | hnew
  · exact hfresh (hsource ▸ (hlegal.ordered e hmem hold).1)
  · exact hes.irrefl e hmem (hsource.trans (List.mem_singleton.mp hnew).symm)

/-- With a position that is placed, the edges that leave it leave the placed positions. -/
theorem mem_leaving_append {e : Edge} {node : Nat} : e ∈ leaving es (placed ++ [node]) ↔
    e ∈ leaving es placed ∨ e ∈ es.filter fun e ↦ e.1 = node := by
  rw [mem_leaving, mem_leaving, List.mem_append, List.mem_singleton, List.mem_filter,
    decide_eq_true_eq, and_or_left]

namespace Sweep

/-- One round places the first position of the frontier. -/
theorem round_after (hes : Simple n es) (hlegal : Legal n es placed) {node : Nat} {rest : List Nat}
    (hfrontier : frontier n es placed = node :: rest) :
    (after n es (leaving es placed) placed).round es =
      after n es (leaving es (placed ++ [node])) (placed ++ [node]) := by
  have hready : unblocked n es (leaving es placed) placed = node :: rest := by
    rw [unblocked_leaving, hfrontier]
  have hnode : node ∈ frontier n es placed := hfrontier ▸ List.mem_cons_self
  have hround : (after n es (leaving es placed) placed).round es =
      (successors es node).foldl release (after n es (leaving es placed) (placed ++ [node])) := by
    unfold round
    simp only [after, hready, unblocked_append_head hready]
  rw [hround, successors, foldl_release_after hes (hes.nodup.filter _)
    (fresh_of_mem_frontier hes hlegal hnode)]
  refine after_congr fun e _ ↦ ?_
  rw [List.mem_append, List.mem_reverse, mem_leaving_append, or_comm]

/-- Without a frontier nothing more is placed. -/
theorem round_after_stuck (hfrontier : frontier n es placed = []) :
    (after n es (leaving es placed) placed).round es = after n es (leaving es placed) placed := by
  unfold round
  simp only [after, unblocked_leaving, hfrontier]

theorem start_eq_after : start n es = after n es (leaving es []) [] := by
  have hcount : inDegree es = remaining es (leaving es []) := by
    funext i
    simp [inDegree, remaining, leaving, List.countP_eq_length_filter]
  have hready : (List.range n).filter (fun i ↦ inDegree es i = 0) =
      unblocked n es (leaving es []) [] := by
    refine List.filter_congr fun i _ ↦ ?_
    simp only [hcount, remaining_eq_zero, List.not_mem_nil, not_false_eq_true, true_and]
  rw [start, after, hready, hcount]

theorem rounds_succ (k : Nat) (s : Sweep) : rounds es (k + 1) s = (rounds es k s).round es := by
  induction k generalizing s with
  | zero => rfl
  | succ k ih => exact ih (s.round es)

end Sweep

/-- The positions that `k` rounds place. -/
def greedy (n : Nat) (es : List Edge) : Nat → List Nat
  | 0 => []
  | k + 1 => greedy n es k ++ (frontier n es (greedy n es k)).head?.toList

theorem greedy_legal (k : Nat) : Legal n es (greedy n es k) := by
  induction k with
  | zero => exact Legal.nil
  | succ k ih =>
    rw [greedy]
    cases hfrontier : frontier n es (greedy n es k) with
    | nil => simpa using ih
    | cons node rest => exact ih.append (hfrontier ▸ List.mem_cons_self)

/-- A run of the placement: after every round, the sweep is the one that the placed positions
determine. -/
theorem rounds_start (hes : Simple n es) (k : Nat) :
    Sweep.rounds es k (.start n es) =
      .after n es (leaving es (greedy n es k)) (greedy n es k) := by
  induction k with
  | zero => exact Sweep.start_eq_after
  | succ k ih =>
    rw [Sweep.rounds_succ, ih, greedy]
    cases hfrontier : frontier n es (greedy n es k) with
    | nil => simpa using Sweep.round_after_stuck hfrontier
    | cons node rest => exact Sweep.round_after hes (greedy_legal k) hfrontier

/-- Every round places a position, or nothing can be placed any more. -/
theorem greedy_length_or_stuck (k : Nat) :
    (greedy n es k).length = k ∨ frontier n es (greedy n es k) = [] := by
  induction k with
  | zero => exact Or.inl rfl
  | succ k ih =>
    rw [greedy]
    cases hfrontier : frontier n es (greedy n es k) with
    | nil => exact Or.inr (by simpa using hfrontier)
    | cons node rest =>
      rw [hfrontier] at ih
      exact Or.inl (by simpa using ih)

/-- Once nothing can be placed any more, further rounds place nothing. -/
theorem greedy_of_stuck {k m : Nat} (hstuck : frontier n es (greedy n es k) = []) (hle : k ≤ m) :
    greedy n es m = greedy n es k := by
  induction m, hle using Nat.le_induction with
  | base => rfl
  | succ m _ ih => rw [greedy, ih, hstuck, List.head?_nil, Option.toList_none, List.append_nil]

/-! ### The choice at each turn -/

/-- The position that is placed next: the least of the frontier. -/
def IsNext (n : Nat) (es : List Edge) (placed : List Nat) (node : Nat) : Prop :=
  node ∈ frontier n es placed ∧ ∀ i ∈ frontier n es placed, node ≤ i

theorem head?_frontier_eq_some {node : Nat} :
    (frontier n es placed).head? = some node ↔ IsNext n es placed node := by
  have hascending := @frontier_ascending n es placed
  unfold IsNext
  cases hfrontier : frontier n es placed with
  | nil => simp
  | cons first rest =>
    rw [hfrontier] at hascending
    have hleast : ∀ i ∈ first :: rest, first ≤ i := fun i hi ↦ by
      rcases List.mem_cons.mp hi with rfl | hrest
      · exact Nat.le_refl i
      · exact Nat.le_of_lt (List.rel_of_pairwise_cons hascending hrest)
    rw [List.head?_cons, Option.some.injEq]
    constructor
    · rintro rfl
      exact ⟨List.mem_cons_self, hleast⟩
    · rintro ⟨hnode, hbelow⟩
      exact Nat.le_antisymm (hleast node hnode) (hbelow first List.mem_cons_self)

/-- Positions that are placed one after the other behind those that are placed already, each of them
the next one at its turn. -/
def Follows (n : Nat) (es : List Edge) : List Nat → List Nat → Prop
  | _, [] => True
  | placed, node :: rest => IsNext n es placed node ∧ Follows n es (placed ++ [node]) rest

theorem follows_append_singleton {order : List Nat} {node : Nat} :
    Follows n es placed (order ++ [node]) ↔
      Follows n es placed order ∧ IsNext n es (placed ++ order) node := by
  induction order generalizing placed with
  | nil => simp [Follows]
  | cons first rest ih =>
    rw [List.cons_append, Follows, Follows, ih, List.append_assoc, List.singleton_append, and_assoc]

theorem follows_greedy (k : Nat) : Follows n es [] (greedy n es k) := by
  induction k with
  | zero => exact trivial
  | succ k ih =>
    rw [greedy]
    cases hnext : (frontier n es (greedy n es k)).head? with
    | none => simpa using ih
    | some node => exact follows_append_singleton.mpr ⟨ih, head?_frontier_eq_some.mp hnext⟩

/-- The choice at each turn determines the order. -/
theorem Follows.eq_greedy {order : List Nat} (h : Follows n es [] order) :
    order = greedy n es order.length := by
  induction order using List.reverseRecOn with
  | nil => rfl
  | append_singleton order node ih =>
    obtain ⟨hfollows, hnext⟩ := follows_append_singleton.mp h
    rw [List.nil_append] at hnext
    rw [List.length_append, List.length_singleton, greedy, ← ih hfollows,
      head?_frontier_eq_some.mpr hnext, Option.toList_some]

end DiagramMigrations.Order
