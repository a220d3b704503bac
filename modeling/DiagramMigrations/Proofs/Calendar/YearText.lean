import DiagramMigrations.Proofs.Calendar.Digits
import Mathlib

/-!
The texts of years, and how they sort. Years of four digits sort as they follow each other. Outside
of them a year has a sign and as many digits as it needs, so that the last of these years sorts
behind the next one, and so does a year before every longer one; years before the first are written
backwards in time, unless a digit is lost.
-/

set_option autoImplicit false
set_option relaxedAutoImplicit false

namespace DiagramMigrations.Calendar

open Text

/-- Whether the text of the next year sorts behind the text of a year. -/
def AscendsAfter (year : Int) : Prop :=
  0 ≤ year ∧ year ≠ 9999 ∧ year ≠ 99999 ∨ year = -1 ∨ year = -10000 ∨ year = -100000

instance (year : Int) : Decidable (AscendsAfter year) :=
  inferInstanceAs (Decidable (_ ∨ _))

variable {m n : Nat} {year : Int}

/-- Numbers of at least four digits, and of as many the one as the other, sort as their digits
do. -/
theorem padded_append_lt (hmn : m < n) (hn : n < 10 ^ 6) (hfour : n < 10 ^ 4 ∨ 10 ^ 4 ≤ m)
    (hfive : n < 10 ^ 5 ∨ 10 ^ 5 ≤ m) (x y : List UInt8) :
    bytes (padded 4 m) ++ x < bytes (padded 4 n) ++ y := by
  have hbytes : ∃ width, bytes (padded 4 m) = digitBytes width m ∧
      bytes (padded 4 n) = digitBytes width n ∧ n < 10 ^ width := by
    rcases hfour with hshort | hlong
    · exact ⟨4, bytes_padded (by decide) (hmn.trans hshort), bytes_padded (by decide) hshort,
        hshort⟩
    rcases hfive with hshort | hlonger
    · exact ⟨5, bytes_padded_of_long (by decide) hlong (hmn.trans hshort),
        bytes_padded_of_long (by decide) (hlong.trans hmn.le) hshort, hshort⟩
    · exact ⟨6, bytes_padded_of_long (by decide) hlonger (hmn.trans hn),
        bytes_padded_of_long (by decide) (hlonger.trans hmn.le) hn, hn⟩
  obtain ⟨width, hm, hlast, hlt⟩ := hbytes
  rw [hm, hlast]
  exact append_lt_append (by simp) (digitBytes_lt hmn hlt)

theorem yearText_of_plain (hlow : 0 ≤ year) (hhigh : year ≤ 9999) :
    yearText year = padded 4 year.natAbs := by
  rw [yearText, if_pos ⟨hlow, hhigh⟩]
  congr 1
  omega

theorem yearText_of_late (h : 9999 < year) : yearText year = "+" ++ padded 4 year.natAbs := by
  rw [yearText, if_neg (by omega), if_neg (by omega)]

theorem yearText_of_early (h : year < 0) : yearText year = "-" ++ padded 4 year.natAbs := by
  rw [yearText, if_neg (by omega), if_pos h]

/-- Texts whose first bytes decide. -/
theorem bytes_append_lt_of_head {first second : String} {b c : UInt8} {bs cs : List UInt8}
    (hfirst : bytes first = b :: bs) (hsecond : bytes second = c :: cs) (h : b < c)
    (x y : List UInt8) : bytes first ++ x < bytes second ++ y := by
  rw [hfirst, hsecond]
  exact List.cons_lt_cons_iff.mpr (Or.inl h)

/-- Texts of the same sign. -/
theorem bytes_sign_append_lt {sign first second : String} {x y : List UInt8}
    (h : bytes first ++ x < bytes second ++ y) :
    bytes (sign ++ first) ++ x < bytes (sign ++ second) ++ y := by
  rw [bytes_append, bytes_append, List.append_assoc, List.append_assoc]
  exact List.append_left_lt h

theorem yearText_append_lt (h : AscendsAfter year) (hlast : year < lastYear) (x y : List UInt8) :
    bytes (yearText year) ++ x < bytes (yearText (year + 1)) ++ y := by
  unfold lastYear at hlast
  rcases h with ⟨hlow, hfour, hfive⟩ | rfl | rfl | rfl
  · rcases Int.lt_or_le year 9999 with hplain | hlate
    · rw [yearText_of_plain hlow hplain.le, yearText_of_plain (by omega) (by omega)]
      exact padded_append_lt (by omega) (by omega) (by omega) (by omega) x y
    · rw [yearText_of_late (by omega), yearText_of_late (by omega)]
      exact bytes_sign_append_lt
        (padded_append_lt (by omega) (by omega) (by omega) (by omega) x y)
  · exact bytes_append_lt_of_head rfl rfl (by decide) x y
  · rw [yearText_of_early (by decide), yearText_of_early (by decide)]
    exact bytes_sign_append_lt (bytes_append_lt_of_head rfl rfl (by decide) x y)
  · rw [yearText_of_early (by decide), yearText_of_early (by decide)]
    exact bytes_sign_append_lt (bytes_append_lt_of_head rfl rfl (by decide) x y)

theorem yearText_succ_append_lt (h : ¬ AscendsAfter year) (hfirst : firstYear ≤ year)
    (x y : List UInt8) : bytes (yearText (year + 1)) ++ x < bytes (yearText year) ++ y := by
  unfold firstYear at hfirst
  unfold AscendsAfter at h
  have hcases : year = 9999 ∨ year = 99999 ∨
      year < -1 ∧ year ≠ -10000 ∧ year ≠ -100000 := by omega
  rcases hcases with rfl | rfl | ⟨hearly, hfour, hfive⟩
  · exact bytes_append_lt_of_head rfl rfl (by decide) x y
  · rw [yearText_of_late (by decide), yearText_of_late (by decide)]
    exact bytes_sign_append_lt (bytes_append_lt_of_head rfl rfl (by decide) x y)
  · rw [yearText_of_early (by omega), yearText_of_early (by omega)]
    exact bytes_sign_append_lt
      (padded_append_lt (by omega) (by omega) (by omega) (by omega) x y)

/-- The text of the next year sorts behind that of a year, or else before it; whatever follows the
two does not matter. -/
theorem yearText_append_lt_iff (hfirst : firstYear ≤ year) (hlast : year < lastYear)
    (x y : List UInt8) :
    bytes (yearText year) ++ x < bytes (yearText (year + 1)) ++ y ↔ AscendsAfter year := by
  refine ⟨fun hlt ↦ ?_, fun h ↦ yearText_append_lt h hlast x y⟩
  by_contra h
  exact List.lt_asymm hlt (yearText_succ_append_lt h hfirst y x)

end DiagramMigrations.Calendar
