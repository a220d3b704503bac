import DiagramMigrations.Proofs.Order.Acyclic
import Mathlib.Data.List.Cycle
import Mathlib.Data.List.Duplicate

/-!
The tables that have no place in an order of creation are those from which a cycle of references
can be reached. What is left when the placement gets stuck waits for more that is left, and so leads
into a cycle; and what is placed before its referents cannot lead into one.
-/

set_option autoImplicit false
set_option relaxedAutoImplicit false

namespace DiagramMigrations.Order

open Relation

/-! ### Cycles and closed walks -/

section Walks

variable {α : Type} {r : α → α → Prop}

/-- Between two visits of one place, a closed walk holds a shorter one. -/
theorem exists_shorter_walk {start : α} {walk : List α}
    (hwalk : List.IsChain r (start :: (walk ++ [start]))) (hrepeats : ¬ (start :: walk).Nodup) :
    ∃ place between, List.IsChain r (place :: (between ++ [place])) ∧
      between.length < walk.length ∧ place :: between ⊆ start :: walk := by
  obtain ⟨place, hplace⟩ := List.exists_duplicate_iff_not_nodup.mpr hrepeats
  obtain ⟨front, back, hsplit, hfront, hback⟩ :=
    List.cons_sublist_iff.mp (List.duplicate_iff_sublist.mp hplace)
  obtain ⟨before, first, rfl⟩ := List.append_of_mem hfront
  obtain ⟨second, after, rfl⟩ := List.append_of_mem (List.singleton_sublist.mp hback)
  have hinner : before ++ (place :: (first ++ second ++ [place])) ++ (after ++ [start]) =
      start :: walk ++ [start] := by
    rw [hsplit]
    simp
  refine ⟨place, first ++ second, List.IsChain.infix hwalk ⟨_, _, hinner⟩, ?_, fun i hi ↦ ?_⟩
  · have hlengths := congrArg List.length hsplit
    simp only [List.length_append, List.length_cons] at hlengths ⊢
    omega
  · rw [hsplit]
    simp only [List.mem_cons, List.mem_append] at hi ⊢
    tauto

/-- A closed walk comes by a cycle. -/
theorem exists_cycle_of_walk (hirrefl : ∀ i, ¬ r i i) {start : α} {walk : List α}
    (hwalk : List.IsChain r (start :: (walk ++ [start]))) :
    ∃ c : Cycle α, c.Nontrivial ∧ c.Nodup ∧ c.Chain r ∧ ∀ i ∈ c, i ∈ start :: walk := by
  induction hlength : walk.length using Nat.strong_induction_on generalizing start walk with
  | _ length ih =>
    by_cases hnodup : (start :: walk).Nodup
    · refine ⟨(start :: walk : List α), ?_, Cycle.nodup_coe_iff.mpr hnodup, hwalk, fun i hi ↦ hi⟩
      rw [Cycle.nontrivial_coe_nodup_iff hnodup]
      cases walk with
      | nil => exact absurd (List.isChain_pair.mp hwalk) (hirrefl start)
      | cons i rest => exact Nat.le_add_left 2 rest.length
    · obtain ⟨place, between, hbetween, hshorter, hsubset⟩ := exists_shorter_walk hwalk hnodup
      obtain ⟨c, htwo, hdistinct, hchain, hmem⟩ := ih _ (hlength ▸ hshorter) hbetween rfl
      exact ⟨c, htwo, hdistinct, hchain, fun i hi ↦ hsubset (hmem i hi)⟩

theorem reflTransGen_of_mem_chain {start i : α} {walk : List α}
    (hwalk : List.IsChain r (start :: walk)) (hi : i ∈ start :: walk) : ReflTransGen r start i :=
  hwalk.induction (ReflTransGen r start) _ (fun _ _ hstep hreach ↦ hreach.tail hstep)
    (fun _ ↦ ReflTransGen.refl) i hi

/-- What leads back to itself reaches a cycle. -/
theorem exists_cycle_of_transGen (hirrefl : ∀ i, ¬ r i i) {start : α}
    (h : TransGen r start start) :
    ∃ c : Cycle α, c.Nontrivial ∧ c.Nodup ∧ c.Chain r ∧ ∀ i ∈ c, ReflTransGen r start i := by
  obtain ⟨next, hstep, hback⟩ := TransGen.head'_iff.mp h
  obtain ⟨rest, hrest, hlast⟩ := List.exists_isChain_cons_of_relationReflTransGen hback
  have hclosed : (next :: rest).dropLast ++ [start] = next :: rest := by
    rw [← hlast, List.dropLast_append_getLast]
  have hwalk : List.IsChain r (start :: ((next :: rest).dropLast ++ [start])) := by
    rw [hclosed]
    exact hrest.cons_cons hstep
  obtain ⟨c, htwo, hnodup, hchain, hmem⟩ := exists_cycle_of_walk hirrefl hwalk
  refine ⟨c, htwo, hnodup, hchain, fun i hi ↦ reflTransGen_of_mem_chain hwalk ?_⟩
  rw [← List.cons_append]
  exact List.mem_append_left _ (hmem i hi)

/-- Whatever stands in a cycle leads back to itself. -/
theorem transGen_self_of_mem_cycle {c : Cycle α} (hchain : c.Chain r) {i : α} (hi : i ∈ c) :
    TransGen r i i :=
  Cycle.chain_iff_pairwise.mp (hchain.imp fun _ _ ↦ TransGen.single) i hi i hi

end Walks

/-! ### Tables that lead into a cycle -/

/-- From the table at a position a cycle is reached: following references, none or several, one
comes to a circle of different tables, each of which refers to the next. -/
def ReachesCycle (tables : List Table) (associations : List Association) (i : Nat) : Prop :=
  ∃ c : Cycle Nat, c.Nontrivial ∧ c.Nodup ∧ c.Chain (RefersTo tables associations) ∧
    ∃ j ∈ c, ReflTransGen (RefersTo tables associations) i j

open Classical in
/-- The tables from which a cycle is reached, as they follow each other on the diagram. -/
noncomputable def blocked (tables : List Table) (associations : List Association) : List Table :=
  (tables.zipIdx.filter fun entry ↦ ReachesCycle tables associations entry.2).map Prod.fst

variable {tables : List Table} {associations : List Association} {i : Nat}

theorem lt_length_of_notMem (hi : i < tables.length) (hleft : i ∉ placement tables associations) :
    (placement tables associations).length < tables.length := by
  by_contra hlong
  have hall := placement_legal.perm_range (not_lt.mp hlong)
  exact hleft (hall.mem_iff.mpr (List.mem_range.mpr hi))

/-- From a position that is left out, others that are left out lead to a cycle. -/
theorem reachesCycle_of_notMem (hids : (tables.map Table.id).Nodup) (hi : i < tables.length)
    (hleft : i ∉ placement tables associations) : ReachesCycle tables associations i := by
  let Left (j : Nat) : Prop := (j < tables.length ∧ j ∉ placement tables associations) ∧
    ReflTransGen (RefersTo tables associations) i j
  have hnext : ∀ j, Left j → ∃ k, Left k ∧ RefersTo tables associations j k := by
    rintro j ⟨hj, hreach⟩
    obtain ⟨k, hk, hedge⟩ :=
      exists_waiting_of_stuck edges_simple (placement_stuck (lt_length_of_notMem hi hleft)) hj
    have hstep := (mem_edges_iff_refersTo hids).mp hedge
    exact ⟨k, ⟨hk, hreach.tail hstep⟩, hstep⟩
  obtain ⟨j, ⟨-, hreach⟩, hcycle⟩ :=
    exists_cycle (fun _ hj ↦ hj.1.1) hnext ⟨⟨hi, hleft⟩, ReflTransGen.refl⟩
  obtain ⟨c, ⟨k, l, hne, hk, hl⟩, hnodup, hchain, hmem⟩ :=
    exists_cycle_of_transGen (fun k hk ↦ hk.1 rfl) hcycle
  exact ⟨c, ⟨k, l, hne, hk, hl⟩, hnodup, hchain, k, hk, hreach.trans (hmem k hk)⟩

/-- No cycle is reached from a position that is placed. -/
theorem notMem_of_reachesCycle (hids : (tables.map Table.id).Nodup)
    (h : ReachesCycle tables associations i) : i ∉ placement tables associations := by
  obtain ⟨c, -, -, hchain, j, hj, hreach⟩ := h
  have hcycle := transGen_self_of_mem_cycle hchain hj
  have hleads : TransGen (RefersTo tables associations) i j := hcycle.trans_right hreach
  rw [← edge_eq_refersTo hids] at hcycle hleads
  intro hi
  exact placement_legal.not_cycle (placement_legal.before hleads hi).1 hcycle

/-- The tables that the placement leaves out are the blocked ones. -/
theorem blocked_eq (hids : (tables.map Table.id).Nodup) : blocked tables associations =
    (tables.zipIdx.filter fun entry ↦ entry.2 ∉ placement tables associations).map Prod.fst := by
  refine congrArg (List.map Prod.fst) (List.filter_congr fun entry hentry ↦ ?_)
  rw [decide_eq_decide]
  exact ⟨notMem_of_reachesCycle hids,
    reachesCycle_of_notMem hids (List.snd_lt_of_mem_zipIdx hentry)⟩

/-- The placement leaves tables out exactly when some are blocked. -/
theorem blocked_ne_nil_iff (hids : (tables.map Table.id).Nodup) :
    blocked tables associations ≠ [] ↔
      (placement tables associations).length < tables.length := by
  rw [blocked_eq hids, ne_eq, List.map_eq_nil_iff]
  constructor
  · intro hsome
    obtain ⟨entry, hentry⟩ := List.exists_mem_of_ne_nil _ hsome
    obtain ⟨hmem, hleft⟩ := List.mem_filter.mp hentry
    exact lt_length_of_notMem (List.snd_lt_of_mem_zipIdx hmem) (of_decide_eq_true hleft)
  · intro hshort
    obtain ⟨i, hi, hleft⟩ := exists_unplaced hshort
    have hentry : (tables[i], i) ∈ tables.zipIdx :=
      List.mem_zipIdx_iff_getElem?.mpr (List.getElem?_eq_getElem hi)
    exact List.ne_nil_of_mem (List.mem_filter.mpr ⟨hentry, decide_eq_true hleft⟩)

end DiagramMigrations.Order

namespace DiagramMigrations

open DiagramMigrations.Order

variable {tables : List Table} {associations : List Association}

/-- The order of creation fails exactly when a cycle is reached from some table, and the failure
names all the tables from which one is reached, each once and as they follow each other on the
diagram. -/
theorem dependencyCycle_names_blocked (hids : (tables.map Table.id).Nodup) {failure : Failure} :
    dependencyOrder tables associations = .error failure ↔
      blocked tables associations ≠ [] ∧
        failure = .dependencyCycle ((blocked tables associations).map Table.name) := by
  rw [dependencyOrder_eq_error_iff, blocked_ne_nil_iff hids, blocked_eq hids, List.map_map]
  rfl

/-- The tables of a workshop. -/
def workshop : List Table :=
  [⟨"t", "Tool", []⟩, ⟨"c", "Crew", []⟩, ⟨"s", "Site", []⟩, ⟨"f", "Foreman", []⟩]

/-- A tool belongs to a crew, a crew to the one it came from and to its foreman, and a foreman to a
crew and to a site. -/
def workshopLinks : List Association := [
  ⟨"a1", "t", "crew_id", "c", "id"⟩, ⟨"a2", "c", "origin_id", "c", "id"⟩,
  ⟨"a3", "c", "foreman_id", "f", "id"⟩, ⟨"a4", "f", "crew_id", "c", "id"⟩,
  ⟨"a5", "f", "site_id", "s", "id"⟩]

/-- The tools are on no cycle themselves, but belong to a crew that is; the site waits for none of
them. -/
theorem workshop_blocked :
    (workshop.map Table.id).Nodup ∧
      dependencyOrder workshop workshopLinks =
        .error (.dependencyCycle ["Tool", "Crew", "Foreman"]) ∧
      (blocked workshop workshopLinks).map Table.name = ["Tool", "Crew", "Foreman"] := by
  have hids : (workshop.map Table.id).Nodup := by decide
  have hfailure : dependencyOrder workshop workshopLinks =
      .error (.dependencyCycle ["Tool", "Crew", "Foreman"]) := by decide
  have hnames := ((dependencyCycle_names_blocked hids).mp hfailure).2
  exact ⟨hids, hfailure, (Failure.dependencyCycle.inj hnames).symm⟩

end DiagramMigrations
