import DiagramMigrations.Binary64

/-!
Numbers of a JSON text. An integer of at most 64 bits is kept exactly; any other number becomes a
binary float, built from the first digits that fit 64 bits and a power of ten.
-/

set_option autoImplicit false
set_option relaxedAutoImplicit false

namespace DiagramMigrations.Json

/-- The parts of a number as it is written: digits before the point, digits after it, and the power
of ten with its sign. -/
structure Spelling where
  negative : Bool
  whole : List Nat
  fraction : Option (List Nat)
  power : Option (Bool × List Nat)
  deriving DecidableEq, Repr

/-- The value of a number. -/
inductive Number
  | integer (value : Int)
  | float (value : Binary64)
  deriving DecidableEq, Repr

namespace Number

/-- The largest integer of 64 bits. -/
def greatestWord : Nat := Nat.pow 2 64 - 1

/-- Appends digits to a number for as long as it fits 64 bits; gives the number and the digits that
were left over. -/
def absorb (value : Nat) : List Nat → Nat × List Nat
  | [] => (value, [])
  | digit :: rest =>
    if value * 10 + digit ≤ greatestWord then absorb (value * 10 + digit) rest
    else (value, digit :: rest)

/-- The number that digits stand for. -/
def ofDigits (digits : List Nat) : Nat :=
  digits.foldl (fun value digit ↦ value * 10 + digit) 0

/-- The value of a spelling; nothing if it is too large for a float. -/
def ofSpelling? (s : Spelling) : Option Number :=
  let (value, dropped) := absorb 0 s.whole
  match s.fraction, s.power, dropped with
  | none, none, [] =>
    if s.negative = false then some (.integer value)
    else if 0 < value ∧ value ≤ Nat.pow 2 63 then some (.integer (-value))
    else (Binary64.ofDecimal true value 0).map .float
  | fraction, power, dropped =>
    let digits := fraction.getD []
    let (significand, ignored) := absorb value digits
    let shift : Int := dropped.length - (digits.length - ignored.length : Nat)
    let raised : Int := match power with
      | none => 0
      | some (below, digits) => if below then -(ofDigits digits : Int) else ofDigits digits
    (Binary64.ofDecimal s.negative significand (shift + raised)).map .float

/-- The number as it is written out. -/
def text : Number → String
  | integer value => toString value
  | float value => value.text

end Number

end DiagramMigrations.Json
