import DiagramMigrations.Schema.Order
import Mathlib.Data.List.Sort

/-!
Counting off edges. At every point of a round, the counts and the ready positions of a sweep follow
from the positions that have been placed and from the edges that have been counted off.
-/

set_option autoImplicit false
set_option relaxedAutoImplicit false

namespace DiagramMigrations.Order

/-- Edges between positions below `n`, each once, none from a position to itself. -/
structure Simple (n : Nat) (es : List Edge) : Prop where
  nodup : es.Nodup
  irrefl : ∀ e ∈ es, e.1 ≠ e.2
  bounded : ∀ e ∈ es, e.1 < n ∧ e.2 < n

-- Named, so that membership among edges is decided in one way throughout.
instance : LawfulBEq Edge := inferInstance

/-- The number of edges into a position that have not been counted off. -/
def remaining (es released : List Edge) (i : Nat) : Nat :=
  es.countP fun e ↦ e.2 = i ∧ e ∉ released

/-- The positions that are not placed and whose edges have all been counted off. -/
def unblocked (n : Nat) (es released : List Edge) (placed : List Nat) : List Nat :=
  (List.range n).filter fun i ↦ i ∉ placed ∧ ∀ e ∈ es, e.2 = i → e ∈ released

namespace Sweep

/-- The sweep that has placed positions and counted off edges. -/
def after (n : Nat) (es released : List Edge) (placed : List Nat) : Sweep where
  waiting := (List.range n).map (remaining es released)
  ready := unblocked n es released placed
  placed := placed

end Sweep

variable {n : Nat} {es released : List Edge} {placed : List Nat}

theorem mem_unblocked {i : Nat} : i ∈ unblocked n es released placed ↔
    i < n ∧ i ∉ placed ∧ ∀ e ∈ es, e.2 = i → e ∈ released := by
  simp [unblocked]

theorem unblocked_ascending : (unblocked n es released placed).Pairwise (· < ·) :=
  List.pairwise_lt_range.filter _

theorem remaining_eq_zero {i : Nat} :
    remaining es released i = 0 ↔ ∀ e ∈ es, e.2 = i → e ∈ released := by
  simp [remaining]

/-- Counting off an edge takes one from the count of its target and leaves the others alone. -/
theorem remaining_cons (hes : es.Nodup) {e : Edge} (he : e ∈ es) (hfree : e ∉ released) (i : Nat) :
    remaining es (e :: released) i =
      if i = e.2 then remaining es released i - 1 else remaining es released i := by
  have hsplit : remaining es released i =
      es.countP (fun f ↦ f = e ∧ f.2 = i) + remaining es (e :: released) i := by
    unfold remaining
    clear hes he
    induction es with
    | nil => rfl
    | cons f rest ih =>
      simp only [List.countP_cons, ih]
      by_cases hf : f = e
      · subst f
        simp [hfree]
        omega
      · simp [hf, List.mem_cons]
        omega
  have hone : es.countP (fun f ↦ f = e ∧ f.2 = i) = if i = e.2 then 1 else 0 := by
    split_ifs with hi
    · have hsame : es.countP (fun f ↦ f = e ∧ f.2 = i) = es.count e := by
        refine List.countP_congr fun f _ ↦ ?_
        simp only [decide_eq_true_eq, beq_iff_eq, and_iff_left_iff_imp]
        intro hf
        rw [hf, hi]
      rw [hsame, List.count_eq_one_of_mem hes he]
    · rw [List.countP_eq_zero]
      intro f _ hf
      simp only [decide_eq_true_eq] at hf
      exact hi (by rw [← hf.2, hf.1])
  rw [hone] at hsplit
  split_ifs at hsplit ⊢ <;> omega

theorem mem_insertReady {node i : Nat} {ready : List Nat} :
    i ∈ Sweep.insertReady node ready ↔ i = node ∨ i ∈ ready := by
  fun_induction Sweep.insertReady node ready with
  | case1 => simp
  | case2 m rest _ => simp
  | case3 rest _ => simp
  | case4 m rest _ _ ih =>
    rw [List.mem_cons, ih, List.mem_cons]
    tauto

theorem insertReady_ascending {node : Nat} {ready : List Nat} (hready : ready.Pairwise (· < ·)) :
    (Sweep.insertReady node ready).Pairwise (· < ·) := by
  fun_induction Sweep.insertReady node ready with
  | case1 => simp
  | case2 m rest hlt =>
    refine List.pairwise_cons.mpr ⟨fun i hi ↦ ?_, hready⟩
    rcases List.mem_cons.mp hi with rfl | hrest
    · exact hlt
    · exact hlt.trans (List.rel_of_pairwise_cons hready hrest)
  | case3 rest _ => exact hready
  | case4 m rest hle hne ih =>
    obtain ⟨hm, hrest⟩ := List.pairwise_cons.mp hready
    refine List.pairwise_cons.mpr ⟨fun i hi ↦ ?_, ih hrest⟩
    rcases mem_insertReady.mp hi with rfl | hrest
    · omega
    · exact hm i hrest

/-- A target joins the ready positions when its last edge is counted off. -/
theorem unblocked_cons {e : Edge} (hlt : e.2 < n) (hplaced : e.2 ∉ placed) :
    unblocked n es (e :: released) placed = if remaining es (e :: released) e.2 = 0 then
      Sweep.insertReady e.2 (unblocked n es released placed)
      else unblocked n es released placed := by
  have hgrow (i : Nat) (hi : i ∈ unblocked n es released placed) :
      i ∈ unblocked n es (e :: released) placed := by
    obtain ⟨hin, hfresh, hdone⟩ := mem_unblocked.mp hi
    exact mem_unblocked.mpr ⟨hin, hfresh, fun f hf hfi ↦ List.mem_cons_of_mem _ (hdone f hf hfi)⟩
  have hshrink (i : Nat) (hne : i ≠ e.2) (hi : i ∈ unblocked n es (e :: released) placed) :
      i ∈ unblocked n es released placed := by
    obtain ⟨hin, hfresh, hdone⟩ := mem_unblocked.mp hi
    refine mem_unblocked.mpr ⟨hin, hfresh, fun f hf hfi ↦ ?_⟩
    rcases List.mem_cons.mp (hdone f hf hfi) with rfl | hmem
    · exact absurd hfi.symm hne
    · exact hmem
  split_ifs with hzero
  · refine unblocked_ascending.eq_of_mem_iff (insertReady_ascending unblocked_ascending) fun i ↦ ?_
    rw [mem_insertReady]
    constructor
    · intro hi
      by_cases heq : i = e.2
      · exact Or.inl heq
      · exact Or.inr (hshrink i heq hi)
    · rintro (rfl | hi)
      · exact mem_unblocked.mpr ⟨hlt, hplaced, remaining_eq_zero.mp hzero⟩
      · exact hgrow i hi
  · refine unblocked_ascending.eq_of_mem_iff unblocked_ascending fun i ↦ ⟨fun hi ↦ ?_, hgrow i⟩
    refine hshrink i (fun heq ↦ hzero ?_) hi
    exact remaining_eq_zero.mpr (heq ▸ (mem_unblocked.mp hi).2.2)

namespace Sweep

/-- Counting off one more edge, at any point of a round. -/
theorem release_after (hes : es.Nodup) {e : Edge} (he : e ∈ es) (hfree : e ∉ released)
    (hlt : e.2 < n) (hplaced : e.2 ∉ placed) :
    (after n es released placed).release e.2 = after n es (e :: released) placed := by
  have hcount : ((after n es released placed).waiting.getD e.2 0) - 1 =
      remaining es (e :: released) e.2 := by
    rw [remaining_cons hes he hfree, if_pos rfl]
    simp [after, List.getD_eq_getElem?_getD, hlt]
  have hwaiting : ((List.range n).map (remaining es released)).set e.2
      (remaining es (e :: released) e.2) = (List.range n).map (remaining es (e :: released)) := by
    refine List.ext_getElem (by simp) fun i hi _ ↦ ?_
    rw [List.getElem_set]
    split_ifs with heq
    · simp [← heq]
    · simp [remaining_cons hes he hfree, Ne.symm heq]
  simp only [release, hcount]
  simp only [after, hwaiting, unblocked_cons hlt hplaced]

/-- Counting off the edges of a list, one after the other. -/
theorem foldl_release_after (hes : Simple n es) {batch : List Edge} (hnodup : batch.Nodup)
    (hbatch : ∀ e ∈ batch, e ∈ es ∧ e ∉ released ∧ e.2 ∉ placed) :
    (batch.map Prod.snd).foldl release (after n es released placed) =
      after n es (batch.reverse ++ released) placed := by
  induction batch generalizing released with
  | nil => rfl
  | cons e rest ih =>
    obtain ⟨he, hfree, hplaced⟩ := hbatch e List.mem_cons_self
    obtain ⟨hnot, hrest⟩ := List.nodup_cons.mp hnodup
    rw [List.map_cons, List.foldl_cons,
      release_after hes.nodup he hfree (hes.bounded e he).2 hplaced, ih hrest]
    · simp
    · intro f hf
      obtain ⟨hfes, hffree, hfplaced⟩ := hbatch f (List.mem_cons_of_mem _ hf)
      refine ⟨hfes, fun hmem ↦ ?_, hfplaced⟩
      rcases List.mem_cons.mp hmem with rfl | hmem
      · exact hnot hf
      · exact hffree hmem

/-- A sweep depends on the edges that have been counted off, not on their order. -/
theorem after_congr {first second : List Edge} (h : ∀ e ∈ es, e ∈ first ↔ e ∈ second) :
    after n es first placed = after n es second placed := by
  have hcount : remaining es first = remaining es second := by
    funext i
    refine List.countP_congr fun e he ↦ ?_
    simp [h e he]
  have hready : unblocked n es first placed = unblocked n es second placed := by
    refine unblocked_ascending.eq_of_mem_iff unblocked_ascending fun i ↦ ?_
    rw [mem_unblocked, mem_unblocked]
    exact and_congr_right fun _ ↦ and_congr_right fun _ ↦
      forall_congr' fun e ↦ forall_congr' fun he ↦ imp_congr_right fun _ ↦ h e he
  rw [after, after, hcount, hready]

end Sweep

end DiagramMigrations.Order
