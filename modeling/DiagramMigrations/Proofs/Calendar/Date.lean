import DiagramMigrations.Calendar.Timestamp
import Mathlib

/-!
Days as dates. A day lies in its year, and of two days the later one has the later date, compared by
year, month and day of the month.
-/

set_option autoImplicit false
set_option relaxedAutoImplicit false

namespace DiagramMigrations.Calendar

theorem yearStart_succ (year : Int) :
    yearStart (year + 1) = yearStart year + if isLeap year then 366 else 365 := by
  unfold yearStart isLeap
  split_ifs with hleap
  · simp only [Bool.and_eq_true, Bool.or_eq_true, decide_eq_true_eq] at hleap
    omega
  · simp only [Bool.and_eq_true, Bool.or_eq_true, decide_eq_true_eq] at hleap
    omega

/-- A day lies in its year. -/
theorem yearOf_spec (day : Int) :
    yearStart (yearOf day) ≤ day ∧ day < yearStart (yearOf day + 1) := by
  have hlow : yearStart (day * 400 / 146097 - 1) ≤ day := by
    unfold yearStart
    omega
  have hhigh : day < yearStart (day * 400 / 146097 + 1 + 1) := by
    unfold yearStart
    omega
  unfold yearOf
  dsimp only
  split_ifs with hbefore hafter
  · exact ⟨hlow, by simpa using hbefore⟩
  · exact ⟨hafter, hhigh⟩
  · exact ⟨not_lt.mp hbefore, not_le.mp hafter⟩

theorem yearStart_lt {first second : Int} (h : first < second) :
    yearStart first < yearStart second := by
  unfold yearStart
  omega

/-- A year has begun by a day exactly if the day lies in it or in a later one. -/
theorem le_yearOf_iff {year day : Int} : year ≤ yearOf day ↔ yearStart year ≤ day := by
  obtain ⟨hbegun, hends⟩ := yearOf_spec day
  constructor
  · intro hle
    rcases Int.le_iff_lt_or_eq.mp hle with hless | rfl
    · exact (yearStart_lt hless).le.trans hbegun
    · exact hbegun
  · intro hle
    by_contra hlater
    rcases Int.le_iff_lt_or_eq.mp (Int.add_one_le_of_lt (not_le.mp hlater)) with hless | heq
    · exact absurd (yearStart_lt hless) (by omega)
    · rw [heq] at hends
      omega

theorem yearOf_le {first second : Int} (h : first ≤ second) : yearOf first ≤ yearOf second :=
  le_yearOf_iff.mpr ((yearOf_spec first).1.trans h)

/-- The lengths of the months add up to that of the year. -/
theorem sum_monthLengths (year : Int) :
    yearStart year + ((monthLengths year).sum : Nat) = yearStart (year + 1) := by
  rw [yearStart_succ]
  cases hleap : isLeap year <;> simp [monthLengths, hleap]

theorem le_monthOf (month days : Nat) (lengths : List Nat) :
    month ≤ (monthOf month days lengths).1 := by
  fun_induction monthOf month days lengths with
  | case1 => rfl
  | case2 => rfl
  | case3 _ _ _ _ _ ih => omega

/-- Of two days the later one has the later month, or the same month and the later day in it. -/
theorem monthOf_lt {first second : Nat} (h : first < second) (month : Nat) (lengths : List Nat) :
    (monthOf month first lengths).1 < (monthOf month second lengths).1 ∨
      (monthOf month first lengths).1 = (monthOf month second lengths).1 ∧
        (monthOf month first lengths).2 < (monthOf month second lengths).2 := by
  induction lengths generalizing first second month with
  | nil => exact Or.inr ⟨rfl, Nat.succ_lt_succ h⟩
  | cons length rest ih =>
    unfold monthOf
    split_ifs with hfirst hsecond
    · exact Or.inr ⟨rfl, Nat.succ_lt_succ h⟩
    · exact Or.inl (le_monthOf (month + 1) _ rest)
    · omega
    · exact ih (by omega) (month + 1)

/-- A day before the end of the last month lies in one of the months, and within its length. -/
theorem monthOf_bounds {days : Nat} (month : Nat) {lengths : List Nat} (h : days < lengths.sum) :
    (monthOf month days lengths).1 < month + lengths.length ∧
      ∃ length ∈ lengths, (monthOf month days lengths).2 ≤ length := by
  induction lengths generalizing days month with
  | nil => exact absurd h (Nat.not_lt_zero days)
  | cons length rest ih =>
    unfold monthOf
    split_ifs with hdays
    · exact ⟨by simp, length, List.mem_cons_self, hdays⟩
    · rw [List.sum_cons] at h
      obtain ⟨hmonth, other, hother, hle⟩ := ih (month + 1) (by omega : days - length < rest.sum)
      refine ⟨?_, other, List.mem_cons_of_mem _ hother, hle⟩
      rw [List.length_cons]
      omega

theorem monthLengths_le {year : Int} {length : Nat} (h : length ∈ monthLengths year) :
    length ≤ 31 := by
  cases hleap : isLeap year <;> simp [monthLengths, hleap] at h <;> omega

/-- Months and days of the month have two digits. -/
theorem dateOf_bounds (day : Int) : (dateOf day).2.1 ≤ 12 ∧ (dateOf day).2.2 ≤ 31 := by
  have hspec := yearOf_spec day
  have hsum := sum_monthLengths (yearOf day)
  have hdays : (day - yearStart (yearOf day)).toNat < (monthLengths (yearOf day)).sum := by omega
  obtain ⟨hmonth, length, hlength, hle⟩ := monthOf_bounds 1 hdays
  exact ⟨Nat.le_of_lt_succ hmonth, hle.trans (monthLengths_le hlength)⟩

/-- Of two days the later one has the later date. -/
theorem dateOf_lt {first second : Int} (h : first < second) :
    (dateOf first).1 < (dateOf second).1 ∨ (dateOf first).1 = (dateOf second).1 ∧
      ((dateOf first).2.1 < (dateOf second).2.1 ∨ (dateOf first).2.1 = (dateOf second).2.1 ∧
        (dateOf first).2.2 < (dateOf second).2.2) := by
  rcases Int.le_iff_lt_or_eq.mp (yearOf_le h.le) with hless | heq
  · exact Or.inl hless
  · have hfirst := (yearOf_spec first).1
    have hdays : (first - yearStart (yearOf first)).toNat <
        (second - yearStart (yearOf first)).toNat := by omega
    refine Or.inr ⟨heq, ?_⟩
    rw [dateOf, dateOf, ← heq]
    exact monthOf_lt hdays 1 _

end DiagramMigrations.Calendar
