import DiagramMigrations.Proofs.Order.Acyclic
import DiagramMigrations.Proofs.Order.Tally

/-!
The loop of the placement in single steps. A step takes a position from the ready ones or counts off
one edge, and it says which position it looks up and which count it finds there. At every point of the
loop the counts are those of the edges that have not been counted off; so no count is taken below zero,
no position joins the ready ones twice, and the loop ends when every edge that it can reach is counted
off.
-/

set_option autoImplicit false
set_option relaxedAutoImplicit false

namespace DiagramMigrations.Order

/-- A point of the loop: the sweep, and the targets that are still to be counted off for the position
placed last. -/
structure Point where
  sweep : Sweep
  pending : List Nat
  deriving DecidableEq, Repr

/-- Before the first step. -/
def Point.start (n : Nat) (es : List Edge) : Point where
  sweep := .start n es
  pending := []

/-- Whether the loop is left. -/
def Point.IsLast (p : Point) : Prop :=
  p.pending = [] ∧ p.sweep.ready = []

/-- What a step does: it places a ready position, whose targets are looked up, or takes one from the
count that it finds at a position, if there is such a position. -/
inductive Action
  | place (node : Nat)
  | countOff (target : Nat) (count : Option Nat)
  deriving DecidableEq, Repr

namespace Action

/-- The position that is taken from the ready ones. -/
def taken? : Action → Option Nat
  | place node => some node
  | countOff _ _ => none

/-- The position that is put among the ready ones. -/
def joined? : Action → Option Nat
  | place _ => none
  | countOff target count => if count.getD 0 - 1 = 0 then some target else none

/-- Whether the position that is looked up is below `n`, and the count that is lowered above zero. -/
def IsSafe (n : Nat) : Action → Prop
  | place node => node < n
  | countOff target count => target < n ∧ ∃ k, count = some k ∧ 0 < k

end Action

/-- A step of the loop. -/
inductive Step (es : List Edge) : Point → Action → Point → Prop
  | place {s : Sweep} {node : Nat} {rest : List Nat} (hready : s.ready = node :: rest) :
    Step es ⟨s, []⟩ (.place node)
      ⟨{ s with ready := rest, placed := s.placed ++ [node] }, successors es node⟩
  | countOff {s : Sweep} {target : Nat} {rest : List Nat} :
    Step es ⟨s, target :: rest⟩ (.countOff target s.waiting[target]?) ⟨s.release target, rest⟩

/-- Steps that are taken one after the other. -/
inductive Run (es : List Edge) (first : Point) : List Action → Point → Prop
  | nil : Run es first [] first
  | snoc {actions : List Action} {p q : Point} {a : Action} (hrun : Run es first actions p)
    (hstep : Step es p a q) : Run es first (actions ++ [a]) q

/-- The positions that are taken from the ready ones, in order. -/
def taken (actions : List Action) : List Nat :=
  actions.filterMap Action.taken?

/-- The positions that are ready at the start or put among the ready ones later, in order. -/
def entered (n : Nat) (es : List Edge) (actions : List Action) : List Nat :=
  (Sweep.start n es).ready ++ actions.filterMap Action.joined?

variable {n : Nat} {es released batch : List Edge} {actions : List Action} {p : Point} {s : Sweep}
  {node : Nat} {rest : List Nat} {e : Edge}

theorem taken_concat (a : Action) : taken (actions ++ [a]) = taken actions ++ a.taken?.toList := by
  simp only [taken, List.filterMap_eq_flatMap_toList, List.flatMap_append, List.flatMap_singleton]

theorem entered_concat (a : Action) :
    entered n es (actions ++ [a]) = entered n es actions ++ a.joined?.toList := by
  simp only [entered, List.filterMap_eq_flatMap_toList, List.flatMap_append, List.flatMap_singleton,
    List.append_assoc]

/-- A point that is reached by actions, with the edges that have been counted off and those that are
to be counted off before the next position is placed. -/
structure Stage (n : Nat) (es : List Edge) (actions : List Action) (released batch : List Edge)
    (p : Point) : Prop where
  sweep_eq : p.sweep = .after n es released (taken actions)
  pending_eq : p.pending = batch.map Prod.snd
  nodup : (released ++ batch).Nodup
  mem_iff : ∀ e, e ∈ leaving es (taken actions) ↔ e ∈ released ∨ e ∈ batch
  fresh : ∀ e ∈ batch, e.2 ∉ taken actions
  follows : Follows n es [] (taken actions)
  legal : Legal n es (taken actions)
  entered_nodup : (entered n es actions).Nodup
  mem_entered : ∀ i, i ∈ entered n es actions ↔
    i ∈ taken actions ∨ i ∈ unblocked n es released (taken actions)
  safe : ∀ a ∈ actions, a.IsSafe n
  length_eq : actions.length = (taken actions).length + released.length

theorem stage_start (n : Nat) (es : List Edge) : Stage n es [] [] [] (.start n es) := by
  have hleaving : leaving es [] = [] := by simp [leaving]
  have hstart : Sweep.start n es = .after n es [] [] := by rw [Sweep.start_eq_after, hleaving]
  have hentered : entered n es [] = unblocked n es [] [] := by
    rw [entered, hstart]
    exact List.append_nil _
  exact {
    sweep_eq := hstart
    pending_eq := rfl
    nodup := List.nodup_nil
    mem_iff := fun e ↦ by simp [taken, hleaving]
    fresh := by simp
    follows := trivial
    legal := Legal.nil
    entered_nodup := hentered ▸ unblocked_ascending.imp Nat.ne_of_lt
    mem_entered := fun i ↦ by rw [hentered]; simp [taken]
    safe := by simp
    length_eq := rfl }

namespace Stage

/-- Between two rounds, the edges that leave the placed positions are counted off. -/
theorem mem_released (h : Stage n es actions released [] p) (e : Edge) :
    e ∈ leaving es (taken actions) ↔ e ∈ released := by
  simp [h.mem_iff]

/-- The ready positions are then those of the frontier. -/
theorem unblocked_eq (h : Stage n es actions released [] p) :
    unblocked n es released (taken actions) = frontier n es (taken actions) := by
  rw [← unblocked_leaving]
  exact congrArg Sweep.ready (Sweep.after_congr fun e _ ↦ (h.mem_released e).symm)

theorem pending_eq_nil (h : Stage n es actions released batch ⟨s, []⟩) : batch = [] :=
  List.map_eq_nil_iff.mp h.pending_eq.symm

/-- Placing the first ready position. -/
theorem place (hes : Simple n es) (h : Stage n es actions released [] ⟨s, []⟩)
    (hready : s.ready = node :: rest) : Stage n es (actions ++ [.place node]) released
      (es.filter fun e ↦ e.1 = node)
      ⟨{ s with ready := rest, placed := s.placed ++ [node] }, successors es node⟩ := by
  have hsweep : s = .after n es released (taken actions) := h.sweep_eq
  have hunblocked : unblocked n es released (taken actions) = node :: rest := by
    rw [← hready, hsweep]
    rfl
  have hfrontier : frontier n es (taken actions) = node :: rest := h.unblocked_eq ▸ hunblocked
  have hnode : node ∈ frontier n es (taken actions) := hfrontier ▸ List.mem_cons_self
  have hbatch := fresh_of_mem_frontier hes h.legal hnode
  have htaken : taken (actions ++ [.place node]) = taken actions ++ [node] := taken_concat _
  have hentered : entered n es (actions ++ [.place node]) = entered n es actions := by
    rw [entered_concat]
    exact List.append_nil _
  have hrest := unblocked_append_head hunblocked
  exact {
    sweep_eq := by
      rw [htaken, hsweep]
      simp only [Sweep.after, hrest]
    pending_eq := rfl
    nodup := by
      refine List.nodup_append'.mpr ⟨(List.nodup_append.mp h.nodup).1, hes.nodup.filter _, ?_⟩
      exact fun e he hbatched ↦ (hbatch e hbatched).2.1 ((h.mem_released e).mpr he)
    mem_iff := fun e ↦ by rw [htaken, mem_leaving_append, h.mem_released]
    fresh := fun e he ↦ htaken ▸ (hbatch e he).2.2
    follows := by
      rw [htaken, follows_append_singleton, List.nil_append, ← head?_frontier_eq_some, hfrontier]
      exact ⟨h.follows, rfl⟩
    legal := htaken ▸ h.legal.append hnode
    entered_nodup := hentered ▸ h.entered_nodup
    mem_entered := fun i ↦ by
      rw [hentered, htaken, h.mem_entered, hunblocked, hrest, List.mem_append, List.mem_singleton,
        List.mem_cons, or_assoc]
    safe := by
      intro a ha
      rcases List.mem_append.mp ha with ha | ha
      · exact h.safe a ha
      · exact List.mem_singleton.mp ha ▸ (mem_frontier.mp hnode).1
    length_eq := by
      rw [htaken, List.length_append, List.length_append, h.length_eq, List.length_singleton,
        List.length_singleton]
      omega }

/-- The next edge has not been counted off, and its target has not been placed. -/
theorem next_edge (hes : Simple n es) (h : Stage n es actions released (e :: batch) p) :
    e ∈ es ∧ e ∉ released ∧ e.2 < n ∧ e.2 ∉ taken actions := by
  have hmem : e ∈ es := (mem_leaving.mp ((h.mem_iff e).mpr (Or.inr List.mem_cons_self))).1
  refine ⟨hmem, fun he ↦ ?_, (hes.bounded e hmem).2, h.fresh e List.mem_cons_self⟩
  exact List.disjoint_of_nodup_append h.nodup he List.mem_cons_self

/-- At its target there is the count of the edges into it that have not been counted off, one of which
is the edge itself. -/
theorem next_count (hes : Simple n es) (h : Stage n es actions released (e :: batch) p) :
    p.sweep.waiting[e.2]? = some (remaining es released e.2) ∧ 0 < remaining es released e.2 := by
  obtain ⟨hmem, hfree, hlt, -⟩ := h.next_edge hes
  constructor
  · rw [h.sweep_eq]
    simp [Sweep.after, hlt]
  · exact Nat.pos_of_ne_zero fun hzero ↦ hfree (remaining_eq_zero.mp hzero e hmem rfl)

/-- If the edge is the last one into its target, the target joins the ready positions, where it has
not been before. -/
theorem entered_countOff (hes : Simple n es) (h : Stage n es actions released (e :: batch) p) :
    (entered n es (actions ++ [.countOff e.2 p.sweep.waiting[e.2]?])).Nodup ∧
      ∀ i, i ∈ entered n es (actions ++ [.countOff e.2 p.sweep.waiting[e.2]?]) ↔
        i ∈ taken actions ∨ i ∈ unblocked n es (e :: released) (taken actions) := by
  obtain ⟨hmem, hfree, hlt, hplaced⟩ := h.next_edge hes
  have hjoined : (Action.countOff e.2 p.sweep.waiting[e.2]?).joined? =
      if remaining es (e :: released) e.2 = 0 then some e.2 else none := by
    rw [remaining_cons hes.nodup hmem hfree, if_pos rfl, (h.next_count hes).1]
    rfl
  have hnew : e.2 ∉ entered n es actions := fun hin ↦
    ((h.mem_entered e.2).mp hin).elim hplaced fun hready ↦
      hfree ((mem_unblocked.mp hready).2.2 e hmem rfl)
  rw [entered_concat, hjoined, unblocked_cons hlt hplaced]
  split_ifs
  · refine ⟨List.concat_eq_append ▸ h.entered_nodup.concat hnew, fun i ↦ ?_⟩
    rw [Option.toList_some, List.mem_append, List.mem_singleton, h.mem_entered, mem_insertReady]
    tauto
  · rw [Option.toList_none, List.append_nil]
    exact ⟨h.entered_nodup, h.mem_entered⟩

/-- Counting off the first edge of those that leave the position placed last. -/
theorem countOff (hes : Simple n es) (h : Stage n es actions released (e :: batch) p) :
    Stage n es (actions ++ [.countOff e.2 p.sweep.waiting[e.2]?]) (e :: released) batch
      ⟨p.sweep.release e.2, batch.map Prod.snd⟩ := by
  obtain ⟨hmem, hfree, hlt, hplaced⟩ := h.next_edge hes
  have htaken : taken (actions ++ [.countOff e.2 p.sweep.waiting[e.2]?]) = taken actions := by
    rw [taken_concat]
    exact List.append_nil _
  obtain ⟨hnodup, hentered⟩ := h.entered_countOff hes
  exact {
    sweep_eq := by
      rw [htaken, h.sweep_eq]
      exact Sweep.release_after hes.nodup hmem hfree hlt hplaced
    pending_eq := rfl
    nodup := List.perm_middle.nodup_iff.mp h.nodup
    mem_iff := fun f ↦ by
      rw [htaken, h.mem_iff, List.mem_cons, List.mem_cons]
      tauto
    fresh := fun f hf ↦ htaken ▸ h.fresh f (List.mem_cons_of_mem _ hf)
    follows := htaken ▸ h.follows
    legal := htaken ▸ h.legal
    entered_nodup := hnodup
    mem_entered := htaken ▸ hentered
    safe := by
      intro a ha
      rcases List.mem_append.mp ha with ha | ha
      · exact h.safe a ha
      · exact List.mem_singleton.mp ha ▸ ⟨hlt, _, h.next_count hes⟩
    length_eq := by
      rw [htaken, List.length_append, List.length_singleton, List.length_cons, h.length_eq]
      omega }

/-- No step goes wrong, and each leads to another stage. -/
theorem step (hes : Simple n es) (h : Stage n es actions released batch p) {a : Action} {q : Point}
    (hstep : Step es p a q) :
    ∃ released' batch', Stage n es (actions ++ [a]) released' batch' q := by
  cases hstep with
  | place hready =>
    obtain rfl := h.pending_eq_nil
    exact ⟨_, _, h.place hes hready⟩
  | countOff =>
    obtain ⟨e, rest, rfl, rfl, rfl⟩ := List.map_eq_cons_iff.mp h.pending_eq.symm
    exact ⟨_, _, h.countOff hes⟩

/-- As many actions as there are positions and edges at most. -/
theorem length_le (h : Stage n es actions released batch p) :
    (taken actions).length ≤ n ∧ actions.length ≤ n + es.length := by
  have htaken : (taken actions).length ≤ n := by
    have hsubset : taken actions ⊆ List.range n := fun i hi ↦
      List.mem_range.mpr (h.legal.bounded i hi)
    simpa using (List.subperm_of_subset h.legal.nodup hsubset).length_le
  have hreleased : released.length ≤ es.length := by
    have hsubset : released ⊆ es := fun e he ↦
      (mem_leaving.mp ((h.mem_iff e).mpr (Or.inl he))).1
    exact (List.subperm_of_subset (List.nodup_append.mp h.nodup).1 hsubset).length_le
  refine ⟨htaken, ?_⟩
  rw [h.length_eq]
  omega

/-- Where the loop is left, it has come as far as one round for each position would. -/
theorem sweep_eq_rounds (hes : Simple n es) (h : Stage n es actions released batch p)
    (hlast : p.IsLast) : p.sweep = Sweep.rounds es n (.start n es) := by
  obtain rfl : batch = [] := List.map_eq_nil_iff.mp (h.pending_eq.symm.trans hlast.1)
  have hstuck : frontier n es (taken actions) = [] := by
    rw [← h.unblocked_eq, ← hlast.2, h.sweep_eq]
    rfl
  have htaken : greedy n es n = taken actions := by
    have hgreedy := h.follows.eq_greedy
    rw [hgreedy] at hstuck
    rw [greedy_of_stuck hstuck h.length_le.1, ← hgreedy]
  rw [rounds_start hes, htaken, h.sweep_eq]
  exact Sweep.after_congr fun e _ ↦ (h.mem_released e).symm

end Stage

/-- Every point that is reached is a stage. -/
theorem Run.exists_stage (hes : Simple n es) (h : Run es (.start n es) actions p) :
    ∃ released batch, Stage n es actions released batch p := by
  induction h with
  | nil => exact ⟨_, _, stage_start n es⟩
  | snoc _ hstep ih =>
    obtain ⟨released, batch, hstage⟩ := ih
    exact hstage.step hes hstep

theorem exists_step_of_not_isLast (h : ¬ p.IsLast) : ∃ a q, Step es p a q := by
  obtain ⟨s, pending⟩ := p
  rcases pending with - | ⟨target, rest⟩
  · obtain ⟨node, rest, hready⟩ := List.exists_cons_of_ne_nil fun hready ↦ h ⟨rfl, hready⟩
    exact ⟨_, _, .place hready⟩
  · exact ⟨_, _, .countOff⟩

/-- Every run can be continued until the loop is left. -/
theorem Run.exists_last (hes : Simple n es) {actions : List Action} {p : Point}
    (h : Run es (.start n es) actions p) :
    ∃ more q, Run es (.start n es) (actions ++ more) q ∧ q.IsLast := by
  by_cases hlast : p.IsLast
  · exact ⟨[], p, by rwa [List.append_nil], hlast⟩
  · obtain ⟨a, q, hstep⟩ := exists_step_of_not_isLast hlast
    obtain ⟨_, _, hstage⟩ := (h.snoc hstep).exists_stage hes
    have hbound := hstage.length_le.2
    obtain ⟨more, r, hrun, hr⟩ := (h.snoc hstep).exists_last hes
    rw [List.append_assoc] at hrun
    exact ⟨[a] ++ more, r, hrun, hr⟩
termination_by n + es.length - actions.length
decreasing_by
  rw [List.length_append, List.length_singleton] at hbound ⊢
  omega

/-- Whether actions of the loop are in order: every position that they look up is below `n`, every
count that they lower is above zero, no position joins or leaves the ready ones twice, and there are
no more rounds than positions and no more steps than positions and edges. -/
structure AreInOrder (n : Nat) (es : List Edge) (actions : List Action) : Prop where
  safe : ∀ a ∈ actions, a.IsSafe n
  entered_nodup : (entered n es actions).Nodup
  taken_nodup : (taken actions).Nodup
  rounds_le : (taken actions).length ≤ n
  steps_le : actions.length ≤ n + es.length

/-- Whatever the tables and the associations are, the edges that are collected lie between positions of
the tables, and the targets and counts that the loop starts with are those of the edges. However far
the loop has come, its actions have been in order and it can be continued until it is left, and then
it has done what the placement does in one round for each table. -/
theorem placement_loop_in_order (tables : List Table) (associations : List Association) :
    (∀ a ∈ associations, ∀ e, edge? tables a = some e →
        e.1 < tables.length ∧ e.2 < tables.length) ∧
      (associations.filterMap (edge? tables)).foldl Tally.add (.empty tables.length) = {
        edges := edges tables associations
        targets := (List.range tables.length).map (successors (edges tables associations))
        counts := (Sweep.start tables.length (edges tables associations)).waiting } ∧
      ∀ actions p,
        Run (edges tables associations) (.start tables.length (edges tables associations)) actions p →
          AreInOrder tables.length (edges tables associations) actions ∧
          (∃ more q, Run (edges tables associations)
            (.start tables.length (edges tables associations)) (actions ++ more) q ∧ q.IsLast) ∧
          (p.IsLast → p.sweep = Sweep.rounds (edges tables associations) tables.length
              (.start tables.length (edges tables associations)) ∧
            p.sweep.placed = placement tables associations) := by
  refine ⟨fun a ha e he ↦ edges_simple.bounded e (mem_edges.mpr ⟨a, ha, he⟩),
    Tally.foldl_add_edges tables associations, fun actions p hrun ↦ ?_⟩
  obtain ⟨released, batch, hstage⟩ := hrun.exists_stage edges_simple
  refine ⟨⟨hstage.safe, hstage.entered_nodup, hstage.legal.nodup, hstage.length_le.1,
    hstage.length_le.2⟩, hrun.exists_last edges_simple, fun hlast ↦ ?_⟩
  have hsweep := hstage.sweep_eq_rounds edges_simple hlast
  exact ⟨hsweep, congrArg Sweep.placed hsweep⟩

end DiagramMigrations.Order
