import DiagramMigrations.Proofs.Calendar.Token
import DiagramMigrations.Proofs.Calendar.YearText
import Mathlib

/-!
The tokens of the seconds after a time, one after the other. From one second to the next the token
ascends, unless a year begins whose text sorts before the text of the year that ends; so over a
whole run it ascends unless one of these years ends in it. A run that goes past the last time that
is told comes back to its start, and a leap second that follows any other second than the last of a
minute is shown as the next second is.
-/

set_option autoImplicit false
set_option relaxedAutoImplicit false

namespace DiagramMigrations.Timestamp

open Calendar Text

/-- A local time: a day of the years in which times are told, and a second of the day, with a leap
second behind it or not. -/
structure Told (t : Timestamp) : Prop where
  day_ge : yearStart firstYear ≤ t.day
  day_lt : t.day < yearStart (lastYear + 1)
  second_lt : t.second < 86400
  nano_lt : t.nano < 2000000000

/-- The time a number of seconds later, or the time itself if that one is not told any more. -/
def later (t : Timestamp) (n : Nat) : Timestamp :=
  (t.addSeconds? n).getD t

variable {start s t last : Timestamp} {i k n : Nat} {year : Int}

theorem Told.firstYear_le (h : start.Told) : firstYear ≤ start.year :=
  le_yearOf_iff.mpr h.day_ge

theorem year_le_lastYear (h : t.day < yearStart (lastYear + 1)) : t.year ≤ lastYear := by
  by_contra hlater
  have hbegun : yearStart (lastYear + 1) ≤ t.day :=
    le_yearOf_iff.mp (Int.add_one_le_of_lt (not_le.mp hlater))
  omega

/-! ### From one second to the next -/

/-- Up to a time that is told, all are. -/
theorem addSeconds?_eq_later (hin : i ≤ n) (hlast : start.addSeconds? n = some last) :
    start.addSeconds? i = some (start.later i) := by
  obtain ⟨t, ht, -⟩ := addSeconds?_between hin hlast
  rw [later, ht, Option.getD_some]

theorem day_of_addSeconds? (hsecond : start.second < 86400) (h : start.addSeconds? i = some t) :
    t.day = start.day + ((start.second + i) / 86400 : Nat) := by
  rcases Nat.eq_zero_or_pos i with rfl | hi
  · obtain rfl := Option.some.inj h
    rw [Nat.add_zero, Nat.div_eq_of_lt hsecond]
    exact (Int.add_zero _).symm
  · exact (addSeconds?_eq_some hi h).1

/-- From one second to the next, the year stays or the next one begins. -/
theorem year_step (hsecond : start.second < 86400) (hs : start.addSeconds? i = some s)
    (ht : start.addSeconds? (i + 1) = some t) : s.year = t.year ∨ s.year + 1 = t.year := by
  have hsday := day_of_addSeconds? hsecond hs
  have htday := day_of_addSeconds? hsecond ht
  have hlow : s.year ≤ t.year := yearOf_le (by omega)
  have hhigh : t.year < s.year + 1 + 1 := by
    by_contra hskipped
    have hbegun : yearStart (s.year + 1 + 1) ≤ t.day := le_yearOf_iff.mp (not_lt.mp hskipped)
    have hends : s.day < yearStart (s.year + 1) := (yearOf_spec s.day).2
    have hlong := yearStart_lt (lt_add_one (s.year + 1))
    omega
  omega

theorem bytes_token_eq (hsecond : t.second < 86400) :
    bytes t.token = bytes (yearText t.year) ++ t.bytesFromMonth [] := by
  have htoken := bytes_token_append hsecond ""
  rwa [String.append_empty] at htoken

/-- From one second to the next the token ascends, unless a year begins whose text sorts before that
of the year that ends. -/
theorem token_lt_step_iff (hstart : start.Told) (hclock : start.Valid)
    (hs : start.addSeconds? i = some s) (ht : start.addSeconds? (i + 1) = some t) :
    bytes s.token < bytes t.token ↔ (s.year < t.year → AscendsAfter s.year) := by
  have htSecond := addSeconds?_second_lt hclock.second_lt ht
  rw [bytes_token_eq (addSeconds?_second_lt hclock.second_lt hs), bytes_token_eq htSecond]
  rcases year_step hclock.second_lt hs ht with hsame | hnext
  · have hearlier := addSeconds?_earlier hclock.second_lt (fun _ ↦ hclock) (Nat.lt_succ_self i) hs ht
    rw [hsame]
    exact iff_of_true
      (List.append_left_lt (bytesFromMonth_lt htSecond hsame hearlier [] []))
      fun hless ↦ absurd hless (lt_irrefl _)
  · have hfirst : firstYear ≤ s.year := by
      have hday := day_of_addSeconds? hclock.second_lt hs
      exact hstart.firstYear_le.trans (yearOf_le (by omega))
    have hlast : t.year ≤ lastYear :=
      year_le_lastYear (addSeconds?_eq_some (Nat.succ_pos i) ht).2.2.2
    rw [← hnext, yearText_append_lt_iff hfirst (by omega)]
    exact ⟨fun h _ ↦ h, fun h ↦ h (lt_add_one s.year)⟩

/-- A leap second behind any other second than the last of a minute is shown as the next second. -/
theorem token_later_one (hsecond : start.second < 86400) (hleap : start.inLeapSecond = true)
    (hminute : start.second % 60 ≠ 59) : (start.later 1).token = start.token := by
  unfold later addSeconds?
  rw [if_neg Nat.one_ne_zero]
  dsimp only
  rw [Nat.div_eq_of_lt (by omega), Nat.mod_eq_of_lt (by omega)]
  split_ifs
  · have hhour : (start.second + 1) / 3600 = start.second / 3600 := by omega
    have hclock : (start.second + 1) / 60 % 60 = start.second / 60 % 60 := by omega
    have hshown : shownSecond ⟨start.day + (0 : Nat), start.second + 1, start.nano % 1000000000⟩ =
        start.shownSecond := by
      have hgone : inLeapSecond ⟨start.day + (0 : Nat), start.second + 1,
          start.nano % 1000000000⟩ = false := by
        simp only [inLeapSecond, decide_eq_false_iff_not]
        omega
      simp only [shownSecond, hgone, hleap]
      simp only [Bool.false_eq_true, if_false, if_true]
      omega
    rw [Option.getD_some, token, token, hshown]
    dsimp only
    rw [hhour, hclock, Nat.cast_zero, add_zero]
  · rfl

/-! ### Over a whole run -/

/-- What ascends from each entry to the next ascends throughout. -/
theorem ascending_iff_steps {entries : Nat → List UInt8} :
    (∀ i j, i < j → j < n → entries i < entries j) ↔
      ∀ i, i + 1 < n → entries i < entries (i + 1) := by
  refine ⟨fun h i hi ↦ h i (i + 1) (Nat.lt_succ_self i) hi, fun h i j hij hj ↦ ?_⟩
  induction j, hij using Nat.le_induction with
  | base => exact h i hj
  | succ j hij ih => exact List.lt_trans (ih (Nat.lt_of_succ_lt hj)) (h j hj)

/-- A year that ends in a run ends from one second of it to the next. -/
theorem exists_turn (hsecond : start.second < 86400) (hlast : start.addSeconds? n = some last)
    (hbegun : start.year ≤ year) (hends : year < last.year) :
    ∃ i < n, (start.later i).year = year ∧ (start.later i).year < (start.later (i + 1)).year := by
  have htold {i : Nat} (hi : i ≤ n) := addSeconds?_eq_later hi hlast
  have hfind : ∀ k ≤ n, year < (start.later k).year →
      ∃ i < n, (start.later i).year = year ∧ (start.later i).year < (start.later (i + 1)).year := by
    intro k
    induction k with
    | zero => exact fun _ hafter ↦ absurd hafter (not_lt.mpr hbegun)
    | succ k ih =>
      intro hk hafter
      rcases Int.lt_or_le year (start.later k).year with hearlier | hturn
      · exact ih (Nat.le_of_succ_le hk) hearlier
      · have hstep := year_step hsecond (htold (Nat.le_of_succ_le hk)) (htold hk)
        exact ⟨k, hk, by omega, by omega⟩
  refine hfind n le_rfl ?_
  rwa [later, hlast, Option.getD_some]

/-- In a run of times that are told, every token is followed by a greater one exactly if no year
ends in the run whose text sorts behind that of the next year. -/
theorem steps_ascend_iff (hstart : start.Told) (hclock : start.Valid)
    (hlast : start.addSeconds? n = some last) :
    (∀ i < n, bytes (start.later i).token < bytes (start.later (i + 1)).token) ↔
      ∀ year, start.year ≤ year → year < last.year → AscendsAfter year := by
  have hstep {i : Nat} (hi : i < n) := token_lt_step_iff hstart hclock
    (addSeconds?_eq_later hi.le hlast) (addSeconds?_eq_later hi hlast)
  constructor
  · intro hascend year hbegun hends
    obtain ⟨i, hi, rfl, hturn⟩ := exists_turn hstart.second_lt hlast hbegun hends
    exact (hstep hi).mp (hascend i hi) hturn
  · intro hyears i hi
    have hday {k : Nat} (hk : k ≤ n) :=
      day_of_addSeconds? hclock.second_lt (addSeconds?_eq_later hk hlast)
    have hbefore := hday hi.le
    have hafter := @hday (i + 1) hi
    have hend := day_of_addSeconds? hclock.second_lt hlast
    have hlow : start.year ≤ (start.later i).year := yearOf_le (by omega)
    have hhigh : (start.later (i + 1)).year ≤ last.year := yearOf_le (by omega)
    exact (hstep hi).mpr fun hturn ↦ hyears _ hlow (hturn.trans_le hhigh)

/-- A second after which the token changes is one that a clock shows. -/
theorem Told.valid (h : start.Told) (hchange : (start.later 1).token ≠ start.token) :
    start.Valid := by
  refine ⟨h.second_lt, fun hleap ↦ ?_⟩
  by_contra hminute
  exact hchange (token_later_one h.second_lt hleap hminute)

/-- A time whose token is not that of the start is told. -/
theorem exists_addSeconds? (hchange : (start.later n).token ≠ start.token) :
    ∃ t, start.addSeconds? n = some t := by
  cases htold : start.addSeconds? n with
  | some t => exact ⟨t, rfl⟩
  | none =>
    rw [later, htold, Option.getD_none] at hchange
    exact absurd rfl hchange

end DiagramMigrations.Timestamp
