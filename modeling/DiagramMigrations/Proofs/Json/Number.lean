import DiagramMigrations.Json.Number
import DiagramMigrations.Proofs.Json.Value

/-!
Numbers that read back. An integer of at most 64 bits is read from its digits as it was; `-0` is
read as a float, whose text is read as the same float.
-/

set_option autoImplicit false
set_option relaxedAutoImplicit false

namespace DiagramMigrations.Json

namespace Number

/-- The number that `-0` is read as. -/
def negativeZero : Binary64 := ⟨true, 0, Binary64.leastExponent⟩

/-- Whether a number is what an integer of at most 64 bits, with or without a sign, is read as. -/
def IsWord : Number → Prop
  | .integer value => -(Nat.pow 2 63 : Nat) ≤ value ∧ value ≤ (greatestWord : Nat)
  | .float value => value = negativeZero

/-- The digits of a natural number. -/
def digits (n : Nat) : List Nat :=
  (Nat.toDigits 10 n).map fun c ↦ c.toNat - 48

/-- The parts of the text of a number: digits and a sign for an integer, and `-0.0` for the one
float that is such a number. -/
def spelling : Number → Spelling
  | .integer value => ⟨decide (value < 0), digits value.natAbs, none, none⟩
  | .float _ => ⟨true, [0], some [0], none⟩

theorem ofDigits_digits (n : Nat) : ofDigits (digits n) = n := by
  have hstep : ∀ (cs : List Char) (value : Nat),
      (cs.map fun c ↦ c.toNat - 48).foldl (fun value digit ↦ value * 10 + digit) value =
        Nat.ofDigitChars 10 cs value := by
    intro cs
    induction cs with
    | nil => exact fun value ↦ Nat.ofDigitChars_nil.symm
    | cons c rest ih =>
      intro value
      rw [List.map_cons, List.foldl_cons, ih, Nat.ofDigitChars_cons, Nat.mul_comm]
      rfl
  rw [ofDigits, digits, hstep, Nat.ofDigitChars_ten_toDigits]

theorem le_foldl_digits (ds : List Nat) (value : Nat) :
    value ≤ ds.foldl (fun value digit ↦ value * 10 + digit) value := by
  induction ds generalizing value with
  | nil => exact Nat.le_refl value
  | cons d rest ih => exact le_trans (by omega) (ih (value * 10 + d))

/-- Digits are taken in to the end if their number fits. -/
theorem absorb_eq {ds : List Nat} {value : Nat}
    (h : ds.foldl (fun value digit ↦ value * 10 + digit) value ≤ greatestWord) :
    absorb value ds = (ds.foldl (fun value digit ↦ value * 10 + digit) value, []) := by
  induction ds generalizing value with
  | nil => rfl
  | cons d rest ih =>
    have hfirst : value * 10 + d ≤ greatestWord := (le_foldl_digits rest _).trans h
    rw [absorb, if_pos hfirst, ih h, List.foldl_cons]

theorem absorb_digits {n : Nat} (h : n ≤ greatestWord) : absorb 0 (digits n) = (n, []) := by
  have hn := ofDigits_digits n
  rw [ofDigits] at hn
  rw [absorb_eq (hn.trans_le h), hn]

theorem overPowerOfTen_negativeZero : negativeZero.overPowerOfTen 1 = some negativeZero := by
  have hten : Binary64.nearest false (Nat.pow 10 1) 1 = some ⟨false, 5629499534213120, -49⟩ := by
    decide
  rcases hzero : negativeZero.magnitude with ⟨num, den⟩
  obtain rfl : num = 0 := congrArg Prod.fst hzero.symm
  rw [Binary64.overPowerOfTen, hten, hzero, Option.bind_eq_bind, Option.bind_some]
  dsimp only
  rw [Nat.zero_mul]
  rfl

theorem ofDecimal_negativeZero : Binary64.ofDecimal true 0 (-1) = some negativeZero := by
  have hzero : Binary64.nearest true 0 1 = some negativeZero := rfl
  have hpower : (-(-1) : Int).toNat = 1 := rfl
  rw [Binary64.ofDecimal, hzero, Option.bind_eq_bind, Option.bind_some, if_pos (by decide), hpower,
    Binary64.shrink, if_pos (by decide), overPowerOfTen_negativeZero]

/-- A number that is read from an integer is read from its own text. -/
theorem ofSpelling?_spelling {n : Number} (h : n.IsWord) : ofSpelling? n.spelling = some n := by
  cases n with
  | float value =>
    obtain rfl : value = negativeZero := h
    have hspelling : ofSpelling? (float negativeZero).spelling =
        (Binary64.ofDecimal true 0 (-1)).map float := rfl
    rw [hspelling, ofDecimal_negativeZero, Option.map_some]
  | integer value =>
    obtain ⟨hleast, hgreatest⟩ := h
    have hword : (greatestWord : Int) = 2 * (Nat.pow 2 63 : Nat) - 1 := by decide
    have hfits : value.natAbs ≤ greatestWord := by omega
    rw [spelling, ofSpelling?, absorb_digits hfits]
    dsimp only
    by_cases hsign : value < 0
    · rw [decide_eq_true hsign, if_neg (by decide), if_pos (by omega)]
      congr 2
      omega
    · rw [decide_eq_false hsign, if_pos rfl]
      congr 2
      omega

end Number

/-- Whether all numbers in a value are integers of at most 64 bits. -/
def HasWords (v : Json) : Prop :=
  ∀ n, .number n ∈ v.parts → n.IsWord

@[simp] theorem hasWords_null : Json.null.HasWords := by
  simp [HasWords, parts]

@[simp] theorem hasWords_boolean {value : Bool} : (Json.boolean value).HasWords := by
  simp [HasWords, parts]

@[simp] theorem hasWords_text {value : String} : (Json.text value).HasWords := by
  simp [HasWords, parts]

theorem hasWords_number {n : Number} : (Json.number n).HasWords ↔ n.IsWord := by
  simp [HasWords, parts]

theorem hasWords_array {items : List Json} :
    (Json.array items).HasWords ↔ ∀ item ∈ items, item.HasWords := by
  simp only [HasWords, parts, List.mem_cons, reduceCtorEq, false_or, mem_itemParts]
  constructor
  · intro h item hitem n hn
    exact h n ⟨item, hitem, hn⟩
  · rintro h n ⟨item, hitem, hn⟩
    exact h item hitem n hn

theorem hasWords_object {members : List (String × Json)} :
    (Json.object members).HasWords ↔ ∀ m ∈ members, m.2.HasWords := by
  simp only [HasWords, parts, List.mem_cons, reduceCtorEq, false_or, mem_memberParts]
  constructor
  · intro h m hm n hn
    exact h n ⟨m, hm, hn⟩
  · rintro h n ⟨m, hm, hn⟩
    exact h m hm n hn

end DiagramMigrations.Json
