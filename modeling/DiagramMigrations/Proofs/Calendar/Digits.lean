import DiagramMigrations.Calendar.Timestamp
import DiagramMigrations.Proofs.Text.Bytes
import Mathlib

/-!
Numbers of a fixed width. As long as a number fits into its width, its padded digits are exactly
that many bytes, and they sort as the number does.
-/

set_option autoImplicit false
set_option relaxedAutoImplicit false

namespace DiagramMigrations.Calendar

open Text

/-- The last `width` decimal digits of a number. -/
def digitBytes : Nat → Nat → List UInt8
  | 0, _ => []
  | width + 1, n => digitBytes width (n / 10) ++ [UInt8.ofNat (48 + n % 10)]

@[simp] theorem length_digitBytes (width n : Nat) : (digitBytes width n).length = width := by
  induction width generalizing n with
  | zero => rfl
  | succ width ih => simp [digitBytes, ih]

theorem encode_zeros (count : Nat) :
    (List.replicate count '0').flatMap String.utf8EncodeChar = List.replicate count 48 := by
  induction count with
  | zero => rfl
  | succ count ih =>
    rw [List.replicate_succ, List.flatMap_cons, ih, List.replicate_succ]
    rfl

theorem digitBytes_zero (width : Nat) : digitBytes width 0 = List.replicate width 48 := by
  induction width with
  | zero => rfl
  | succ width ih =>
    rw [digitBytes, Nat.zero_div, ih, List.replicate_succ']
    rfl

theorem utf8EncodeChar_digitChar {d : Nat} (hd : d < 10) :
    String.utf8EncodeChar (Nat.digitChar d) = [UInt8.ofNat (48 + d)] := by
  interval_cases d <;> rfl

/-- The padded digits of a number that fits into its width. -/
theorem bytes_padded {width n : Nat} (hwidth : 0 < width) (hn : n < 10 ^ width) :
    bytes (padded width n) = digitBytes width n := by
  rw [padded, bytes_ofList, List.flatMap_append]
  induction width, hwidth using Nat.le_induction generalizing n with
  | base =>
    rw [pow_one] at hn
    rw [Nat.toDigits_of_lt_base hn, digitBytes, Nat.mod_eq_of_lt hn]
    simpa [digitBytes] using utf8EncodeChar_digitChar hn
  | succ width hwidth ih =>
    by_cases hsmall : n < 10
    · rw [Nat.toDigits_of_lt_base hsmall, digitBytes, Nat.div_eq_of_lt hsmall,
        Nat.mod_eq_of_lt hsmall, digitBytes_zero, encode_zeros, List.flatMap_singleton,
        utf8EncodeChar_digitChar hsmall]
      rfl
    · rw [not_lt] at hsmall
      have hrest : n / 10 < 10 ^ width := by
        rwa [Nat.div_lt_iff_lt_mul (by decide), ← pow_succ]
      have hlast : n % 10 < 10 := Nat.mod_lt n (by decide)
      rw [Nat.toDigits_of_base_le (by decide) hsmall, digitBytes, ← ih hrest,
        List.length_append, List.length_singleton, Nat.add_sub_add_right, List.flatMap_append,
        ← List.append_assoc, List.flatMap_singleton, utf8EncodeChar_digitChar hlast]

/-- A number has as many digits as it needs. -/
theorem lt_length_toDigits {width n : Nat} (hn : 10 ^ width ≤ n) :
    width < (Nat.toDigits 10 n).length := by
  induction width generalizing n with
  | zero => exact List.length_pos_iff.mpr Nat.toDigits_ne_nil
  | succ width ih =>
    rw [pow_succ] at hn
    have hten : 10 ≤ n := (Nat.le_mul_of_pos_left 10 (by positivity)).trans hn
    have hrest : 10 ^ width ≤ n / 10 := (Nat.le_div_iff_mul_le (by decide)).mpr hn
    rw [Nat.toDigits_of_base_le (by decide) hten, List.length_append, List.length_singleton]
    exact Nat.succ_lt_succ (ih hrest)

/-- The digits of a number that is too long for its width stand without zeros before them. -/
theorem bytes_padded_of_long {width long n : Nat} (hwidth : width ≤ long + 1)
    (hlow : 10 ^ long ≤ n) (hhigh : n < 10 ^ (long + 1)) :
    bytes (padded width n) = digitBytes (long + 1) n := by
  have hlength := lt_length_toDigits hlow
  rw [← bytes_padded (Nat.succ_pos long) hhigh, padded, padded,
    Nat.sub_eq_zero_of_le (hwidth.trans hlength), Nat.sub_eq_zero_of_le hlength]

/-- Numbers that fit into a width sort as their digits do. -/
theorem digitBytes_lt {width m n : Nat} (hmn : m < n) (hn : n < 10 ^ width) :
    digitBytes width m < digitBytes width n := by
  induction width generalizing m n with
  | zero =>
    rw [pow_zero] at hn
    omega
  | succ width ih =>
    rw [digitBytes, digitBytes]
    rcases Nat.lt_or_eq_of_le (Nat.div_le_div_right hmn.le : m / 10 ≤ n / 10) with hlt | heq
    · refine append_lt_append (by simp) (ih hlt ?_)
      rwa [Nat.div_lt_iff_lt_mul (by decide), ← pow_succ]
    · have hlast : m % 10 < n % 10 := by omega
      rw [heq]
      refine List.append_left_lt (List.cons_lt_cons_iff.mpr (Or.inl ?_))
      rw [UInt8.lt_iff_toNat_lt, UInt8.toNat_ofNat', UInt8.toNat_ofNat']
      omega

end DiagramMigrations.Calendar
