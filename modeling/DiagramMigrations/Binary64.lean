/-!
Finite binary floating-point numbers of 64 bits, in exact arithmetic on natural numbers: rounding to
nearest, products and quotients, and the shortest decimal that reads back.
-/

set_option autoImplicit false
set_option relaxedAutoImplicit false

namespace DiagramMigrations

/-- The number `significand * 2 ^ exponent`, or its opposite. The significand has 53 bits, or fewer
where the exponent is the least one. -/
structure Binary64 where
  negative : Bool
  significand : Nat
  exponent : Int
  deriving DecidableEq, Repr

namespace Binary64

/-- The exponent of the numbers closest to zero. -/
def leastExponent : Int := -1074

/-- The exponent of the largest numbers. -/
def greatestExponent : Int := 971

/-- A quotient rounded to the nearest integer; a half goes to the even neighbour. -/
def roundDiv (num den : Nat) : Nat :=
  let quotient := num / den
  let remainder := num % den
  if 2 * remainder < den ∨ (2 * remainder = den ∧ quotient % 2 = 0) then quotient
  else quotient + 1

/-- The quotient `num / (den * 2 ^ exponent)` as a pair of natural numbers. -/
def scaled (num den : Nat) (exponent : Int) : Nat × Nat :=
  if 0 ≤ exponent then (num, den * Nat.pow 2 exponent.toNat)
  else (num * Nat.pow 2 (-exponent).toNat, den)

/-- The power of two at or below a positive quotient. -/
def binaryOrder (num den : Nat) : Int :=
  let guess : Int := num.log2 - den.log2
  let (n, d) := scaled num den guess
  if d ≤ n then guess else guess - 1

/-- The number nearest to a quotient; nothing if it is too large. -/
def nearest (negative : Bool) (num den : Nat) : Option Binary64 :=
  if num = 0 then some ⟨negative, 0, leastExponent⟩
  else
    let exponent := max (binaryOrder num den - 52) leastExponent
    let (n, d) := scaled num den exponent
    let significand := roundDiv n d
    let rounded : Binary64 :=
      if significand = Nat.pow 2 53 then ⟨negative, Nat.pow 2 52, exponent + 1⟩
      else ⟨negative, significand, exponent⟩
    if rounded.exponent ≤ greatestExponent then some rounded else none

/-- The absolute value as a quotient of natural numbers. -/
def magnitude (x : Binary64) : Nat × Nat :=
  scaled x.significand 1 (-x.exponent)

/-- The rounded product with a power of ten that is itself rounded. -/
def timesPowerOfTen (x : Binary64) (power : Nat) : Option Binary64 := do
  let ten ← nearest false (Nat.pow 10 power) 1
  let (n, d) := x.magnitude
  let (tenNum, tenDen) := ten.magnitude
  nearest x.negative (n * tenNum) (d * tenDen)

/-- The rounded quotient by a power of ten that is itself rounded. -/
def overPowerOfTen (x : Binary64) (power : Nat) : Option Binary64 := do
  let ten ← nearest false (Nat.pow 10 power) 1
  let (n, d) := x.magnitude
  let (tenNum, tenDen) := ten.magnitude
  nearest x.negative (n * tenDen) (d * tenNum)

/-- The largest power of ten that is divided by in one step. -/
def greatestPowerOfTen : Nat := 308

/-- Divides by a power of ten of any size, in steps that are rounded one by one. -/
def shrink (x : Binary64) (power : Nat) : Option Binary64 :=
  if power ≤ greatestPowerOfTen then x.overPowerOfTen power
  else if x.significand = 0 then some x
  else do (← x.overPowerOfTen greatestPowerOfTen).shrink (power - greatestPowerOfTen)
termination_by power
decreasing_by simp [greatestPowerOfTen] at *; omega

/-- `significand * 10 ^ exponent`, rounded at each step; nothing if it is too large. -/
def ofDecimal (negative : Bool) (significand : Nat) (exponent : Int) : Option Binary64 := do
  let x ← nearest negative significand 1
  if exponent < 0 then x.shrink (-exponent).toNat
  else if exponent.toNat ≤ greatestPowerOfTen then x.timesPowerOfTen exponent.toNat
  else if significand = 0 then some x
  else none

/-- A positive quotient has this many digits before its point; minus the zeros after the point if it
is below a tenth. -/
def decimalOrder (num den : Nat) : Int :=
  if den ≤ num then (Nat.toDigits 10 (num / den)).length
  else
    let zeros := ((List.range 400).find? fun k ↦ den ≤ num * Nat.pow 10 (k + 1)).getD 0
    Int.negOfNat zeros

/-- The decimals `digits * 10 ^ exponent` of a length, on either side of a quotient: the nearer one
first, and the even one first where both are as near. -/
def neighbours (num den length : Nat) : List (Nat × Int) :=
  let exponent := decimalOrder num den - length
  let (n, d) := if 0 ≤ exponent then (num, den * Nat.pow 10 exponent.toNat)
    else (num * Nat.pow 10 (-exponent).toNat, den)
  let below := n / d
  if roundDiv n d = below then [(below, exponent), (below + 1, exponent)]
  else [(below + 1, exponent), (below, exponent)]

/-- Drops the zeros at the end of the digits. -/
def withoutZeros (digits : Nat) (exponent : Int) : Nat × Int :=
  if h : digits ≠ 0 ∧ digits % 10 = 0 then withoutZeros (digits / 10) (exponent + 1)
  else (digits, exponent)
termination_by digits
decreasing_by omega

/-- Whether a decimal is rounded to this number. -/
def isReadFrom (x : Binary64) (decimal : Nat × Int) : Bool :=
  let (digits, exponent) := decimal
  let read := if 0 ≤ exponent then nearest x.negative (digits * Nat.pow 10 exponent.toNat) 1
    else nearest x.negative digits (Nat.pow 10 (-exponent).toNat)
  read = some x

/-- The shortest digits that read back, the nearest ones among those, with the power of ten of the
last digit. -/
def shortest (x : Binary64) : Nat × Int :=
  let (num, den) := x.magnitude
  let candidates := (List.range 17).flatMap fun k ↦ neighbours num den (k + 1)
  match candidates.find? x.isReadFrom with
  | some (digits, exponent) => withoutZeros digits exponent
  | none => (0, 0)

/-- The decimal text. A number whose first digit stands within five places after the point or
sixteen before it is written in full, any other with a power of ten. -/
def text (x : Binary64) : String :=
  let sign := if x.negative then "-" else ""
  if x.significand = 0 then sign ++ "0.0"
  else
    let (digits, exponent) := x.shortest
    let figures := Nat.toDigits 10 digits
    let order := exponent + figures.length - 1
    let body :=
      if -5 ≤ order ∧ order < 0 then
        ['0', '.'] ++ List.replicate ((-order).toNat - 1) '0' ++ figures
      else if 0 ≤ order ∧ order ≤ 15 then
        if 0 ≤ exponent then figures ++ List.replicate exponent.toNat '0' ++ ['.', '0']
        else figures.take (order.toNat + 1) ++ ['.'] ++ figures.drop (order.toNat + 1)
      else
        let mantissa := match figures with
          | [] => []
          | [d] => [d]
          | d :: rest => d :: '.' :: rest
        let power := Nat.toDigits 10 order.natAbs
        mantissa ++ ['e', if order < 0 then '-' else '+'] ++ power
    sign ++ String.ofList body

end Binary64

end DiagramMigrations
