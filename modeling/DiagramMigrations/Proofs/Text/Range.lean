import DiagramMigrations.Text.Range
import Mathlib.Data.List.Chain
import Mathlib.Tactic.Common

/-!
Runs of code points that have nothing in common, and runs within others. Ascending runs are compared
by going along both, which takes as many steps as there are runs.
-/

set_option autoImplicit false
set_option relaxedAutoImplicit false

namespace DiagramMigrations.Text

namespace CodeRun

/-- Whether a code point lies on a run. -/
def Holds (r : CodeRun) (n : Nat) : Prop :=
  r.1 ≤ n ∧ n ≤ r.2.1 ∧ (n - r.1) % r.2.2 = 0

/-- Whether the members of a run are all even or all odd. -/
def keepsParity (r : CodeRun) : Bool :=
  r.2.2 == 2 || r.1 == r.2.1

/-- Whether a run ends before another begins. -/
def Precedes (r s : CodeRun) : Prop :=
  r.1 ≤ r.2.1 ∧ r.2.1 < s.1

instance (r s : CodeRun) : Decidable (r.Precedes s) :=
  inferInstanceAs (Decidable (_ ∧ _))

instance : Trans Precedes Precedes Precedes where
  trans hrs hst := ⟨hrs.1, (hrs.2.trans_le hst.1).trans hst.2⟩

/-- Whether bounds or parity tell that runs have no member in common. -/
def isApart (r s : CodeRun) : Bool :=
  Nat.blt r.2.1 s.1 || (Nat.blt s.2.1 r.1 ||
    ((r.1 + s.1) % 2 == 1 && (r.keepsParity && s.keepsParity)))

/-- Whether bounds and distances tell that all members of a run lie on another. -/
def liesOn (r s : CodeRun) : Bool :=
  Nat.ble r.2.1 s.2.1 && (Nat.ble s.1 r.1 && ((r.1 - s.1) % s.2.2 == 0 &&
    (r.2.2 % s.2.2 == 0 || r.1 == r.2.1)))

/-- A run of two members as two runs. -/
def parts (r : CodeRun) : List CodeRun :=
  if r.1 + r.2.2 = r.2.1 then [(r.1, r.1, 1), (r.2.1, r.2.1, 1)] else [r]

variable {r s : CodeRun} {n : Nat}

theorem Holds.exists_part (h : r.Holds n) : ∃ p ∈ r.parts, p.Holds n := by
  unfold parts
  split_ifs with htwo
  · obtain ⟨hfirst, hlast, hstride⟩ := h
    have hmember : n = r.1 ∨ n = r.2.1 := by
      rcases Nat.lt_or_ge (n - r.1) r.2.2 with hlt | hge
      · rw [Nat.mod_eq_of_lt hlt] at hstride
        omega
      · omega
    rcases hmember with rfl | rfl
    · exact ⟨_, List.mem_cons_self, Nat.le_refl _, Nat.le_refl _, by simp⟩
    · exact ⟨_, List.mem_cons_of_mem _ List.mem_cons_self, Nat.le_refl _, Nat.le_refl _, by simp⟩
  · exact ⟨r, List.mem_cons_self, h⟩

theorem Holds.mod_two (h : r.Holds n) (hr : r.keepsParity = true) : n % 2 = r.1 % 2 := by
  obtain ⟨hfirst, hlast, hstride⟩ := h
  rw [keepsParity, Bool.or_eq_true, beq_iff_eq, beq_iff_eq] at hr
  rcases hr with hr | hr
  · rw [hr] at hstride
    omega
  · rw [show n = r.1 by omega]

theorem Holds.not_holds (h : r.Holds n) (hapart : r.isApart s = true) : ¬ s.Holds n := by
  intro hs
  simp only [isApart, Bool.or_eq_true, Bool.and_eq_true, Nat.blt_eq, beq_iff_eq] at hapart
  rcases hapart with hbelow | habove | ⟨hodd, hr, hs'⟩
  · have := h.2.1
    have := hs.1
    omega
  · have := hs.2.1
    have := h.1
    omega
  · have := h.mod_two hr
    have := hs.mod_two hs'
    omega

theorem Holds.of_liesOn (h : r.Holds n) (hlies : r.liesOn s = true) : s.Holds n := by
  simp only [liesOn, Bool.or_eq_true, Bool.and_eq_true, Nat.ble_eq, beq_iff_eq] at hlies
  obtain ⟨hlast, hfirst, hoffset, hstride⟩ := hlies
  obtain ⟨hn, hn', hmod⟩ := h
  refine ⟨by omega, by omega, ?_⟩
  have hsum : n - s.1 = (n - r.1) + (r.1 - s.1) := by omega
  have hinner : (n - r.1) % s.2.2 = 0 := by
    rcases hstride with hstride | hsingle
    · exact Nat.mod_eq_zero_of_dvd
        (Nat.dvd_trans (Nat.dvd_of_mod_eq_zero hstride) (Nat.dvd_of_mod_eq_zero hmod))
    · rw [show n - r.1 = 0 by omega, Nat.zero_mod]
  rw [hsum, Nat.add_mod, hinner, hoffset]
  exact Nat.zero_mod _

end CodeRun

variable {n : Nat} {runs others : List CodeRun}

theorem exists_run_of_inRuns (h : inRuns runs n = true) : ∃ r ∈ runs, r.Holds n := by
  induction runs with
  | nil => cases h
  | cons r rest ih =>
    rw [inRuns] at h
    split_ifs at h with hbelow hinside
    · simp only [Bool.and_eq_true, decide_eq_true_eq, beq_iff_eq] at hinside
      exact ⟨r, List.mem_cons_self, Nat.le_of_not_lt hbelow, hinside.1, hinside.2⟩
    · obtain ⟨s, hs, hholds⟩ := ih h
      exact ⟨s, List.mem_cons_of_mem _ hs, hholds⟩

/-- Whether runs stand in ascending order, one behind the other. -/
def IsAscending (runs : List CodeRun) : Prop :=
  runs.IsChain CodeRun.Precedes

instance (runs : List CodeRun) : Decidable (IsAscending runs) :=
  inferInstanceAs (Decidable (List.IsChain _ _))

theorem isAscending_cons {r : CodeRun} :
    IsAscending (r :: runs) ↔ (∀ s ∈ runs, r.Precedes s) ∧ IsAscending runs := by
  rw [IsAscending, List.isChain_iff_pairwise, List.pairwise_cons, ← List.isChain_iff_pairwise]
  rfl

theorem inRuns_of_holds (hruns : IsAscending runs) {r : CodeRun} (hr : r ∈ runs)
    (h : r.Holds n) : inRuns runs n = true := by
  induction runs with
  | nil => cases hr
  | cons s rest ih =>
    obtain ⟨hfirst, hrest⟩ := isAscending_cons.mp hruns
    rw [inRuns]
    rcases List.mem_cons.mp hr with rfl | hr
    · rw [if_neg (Nat.not_lt.mpr h.1), if_pos (by simpa using h.2)]
    · have hbehind : ¬ n < s.1 := by
        have := hfirst r hr
        have := h.1
        unfold CodeRun.Precedes at *
        omega
      rw [if_neg hbehind, ih hrest hr]
      split_ifs <;> rfl

/-- Goes along other runs up to the first that reaches as far as a run, and on from there. -/
def CodeRun.passes (r : CodeRun) (next : List CodeRun → Bool) : List CodeRun → Bool
  | [] => true
  | s :: others =>
    r.isApart s && if Nat.ble r.2.1 s.2.1 then next (s :: others) else r.passes next others

/-- Whether ascending runs have no code point in common with others: both are gone along together,
and compared where their bounds may overlap. -/
def areApart (runs : List CodeRun) : List CodeRun → Bool :=
  runs.foldr CodeRun.passes fun _ ↦ true

theorem not_holds_of_areApart (hruns : IsAscending runs) (hothers : IsAscending others)
    (hapart : areApart runs others = true) {r s : CodeRun} (hr : r ∈ runs) (hs : s ∈ others)
    (h : r.Holds n) : ¬ s.Holds n := by
  induction runs generalizing others with
  | nil => cases hr
  | cons first runs ih =>
    obtain ⟨hfirst, hruns'⟩ := isAscending_cons.mp hruns
    induction others with
    | nil => cases hs
    | cons other others ihothers =>
      obtain ⟨hother, hothers'⟩ := isAscending_cons.mp hothers
      obtain ⟨hhere, hbeyond⟩ := Bool.and_eq_true_iff.mp hapart
      -- the run that ends first has nothing in common with what stands behind the other
      split_ifs at hbeyond with hends
      · rcases List.mem_cons.mp hr with rfl | hr
        · rcases List.mem_cons.mp hs with rfl | hs
          · exact h.not_holds hhere
          · intro hheld
            have hbound := Nat.le_of_ble_eq_true hends
            have hbehind := (hother s hs).2
            have hlast := h.2.1
            have hbegins := hheld.1
            omega
        · exact ih hruns' hothers hbeyond hr hs
      · rcases List.mem_cons.mp hs with rfl | hs
        · rcases List.mem_cons.mp hr with rfl | hr
          · exact h.not_holds hhere
          · intro hheld
            have hbound : ¬ first.2.1 ≤ s.2.1 := mt Nat.ble_eq.mpr hends
            have hbehind := (hfirst r hr).2
            have hlast := hheld.2.1
            have hbegins := h.1
            omega
        · exact ihothers hothers' hbeyond hs

/-- Runs that are apart have no code point in common. -/
theorem inRuns_eq_false_of_areApart (hruns : IsAscending runs) (hothers : IsAscending others)
    (hapart : areApart runs others = true) (h : inRuns runs n = true) : inRuns others n = false := by
  obtain ⟨r, hr, hholds⟩ := exists_run_of_inRuns h
  refine Bool.eq_false_iff.mpr fun hinside ↦ ?_
  obtain ⟨s, hs, hother⟩ := exists_run_of_inRuns hinside
  exact not_holds_of_areApart hruns hothers hapart hr hs hholds hother

/-- Goes along other runs up to the first that reaches as far as a run begins, which the run has to
lie on, and on from there. -/
def CodeRun.lands (r : CodeRun) (next : List CodeRun → Bool) : List CodeRun → Bool
  | [] => false
  | s :: others =>
    if Nat.blt s.2.1 r.1 then r.lands next others else r.liesOn s && next (s :: others)

/-- Whether ascending runs lie on others: both are gone along together. -/
def areWithin (runs : List CodeRun) : List CodeRun → Bool :=
  runs.foldr CodeRun.lands fun _ ↦ true

theorem exists_liesOn_of_areWithin (hwithin : areWithin runs others = true) {r : CodeRun}
    (hr : r ∈ runs) : ∃ s ∈ others, r.liesOn s = true := by
  induction runs generalizing others with
  | nil => cases hr
  | cons first runs ih =>
    induction others with
    | nil => cases hwithin
    | cons other others ihothers =>
      rw [areWithin, List.foldr_cons, CodeRun.lands] at hwithin
      split_ifs at hwithin with hbelow
      · obtain ⟨s, hs, hlies⟩ := ihothers hwithin
        exact ⟨s, List.mem_cons_of_mem _ hs, hlies⟩
      · obtain ⟨hhere, hbeyond⟩ := Bool.and_eq_true_iff.mp hwithin
        rcases List.mem_cons.mp hr with rfl | hr
        · exact ⟨other, List.mem_cons_self, hhere⟩
        · exact ih hbeyond hr

/-- Of runs whose parts lie on others, all code points are on the others. -/
theorem inRuns_of_areWithin (hothers : IsAscending others)
    (hwithin : areWithin (runs.flatMap CodeRun.parts) others = true) (h : inRuns runs n = true) :
    inRuns others n = true := by
  obtain ⟨r, hr, hholds⟩ := exists_run_of_inRuns h
  obtain ⟨p, hp, hpart⟩ := hholds.exists_part
  obtain ⟨s, hs, hlies⟩ := exists_liesOn_of_areWithin hwithin (List.mem_flatMap.mpr ⟨r, hr, hp⟩)
  exact inRuns_of_holds hothers hs (hpart.of_liesOn hlies)

end DiagramMigrations.Text
