import DiagramMigrations.Calendar.Timestamp
import DiagramMigrations.Text.Ascii
import DiagramMigrations.Text.Blank

/-!
Reading local times. A layout is a list of items; white space may stand before every number, and an
item may allow it elsewhere.
-/

set_option autoImplicit false
set_option relaxedAutoImplicit false

namespace DiagramMigrations.Calendar

/-- An item of a layout. -/
inductive Item
  | year
  | month
  | day
  | hour
  | minute
  | second
  | fraction
  | space
  | mark (c : Char)
  deriving DecidableEq, Repr

/-- The numbers that have been read. -/
structure Reading where
  year : Int := 0
  month : Nat := 0
  day : Nat := 0
  hour : Nat := 0
  minute : Nat := 0
  second : Nat := 0
  nano : Nat := 0

/-- The number that digits stand for. -/
def numberOf (digits : List Char) : Nat :=
  digits.foldl (fun n c ↦ n * 10 + (c.toNat - 48)) 0

/-- The digits at the front, at most `width` of them, and what follows. -/
def digits? (width : Nat) (cs : List Char) : Option (List Char × List Char) :=
  let digits := (cs.take width).takeWhile Text.isAsciiDigit
  if digits = [] then none else some (digits, cs.drop digits.length)

/-- A number of at most two digits in a range. -/
def readTwo? (low high : Nat) (cs : List Char) : Option (Nat × List Char) := do
  let (digits, rest) ← digits? 2 (Text.trimStart cs)
  let n := numberOf digits
  if low ≤ n ∧ n ≤ high then some (n, rest) else none

/-- A year: up to four digits, or a sign and any number of digits. -/
def readYear? (cs : List Char) : Option (Int × List Char) := do
  let (year, rest) ← match Text.trimStart cs with
    | '-' :: cs => (digits? cs.length cs).map fun (digits, rest) ↦ (-(numberOf digits : Int), rest)
    | '+' :: cs => (digits? cs.length cs).map fun (digits, rest) ↦ ((numberOf digits : Int), rest)
    | cs => (digits? 4 cs).map fun (digits, rest) ↦ ((numberOf digits : Int), rest)
  if firstYear ≤ year ∧ year ≤ lastYear then some (year, rest) else none

/-- A point and digits, of which nine count; or nothing. -/
def readFraction? : List Char → Option (Nat × List Char)
  | '.' :: cs => do
    let (digits, rest) ← digits? 9 cs
    return (numberOf digits * Nat.pow 10 (9 - digits.length), rest.dropWhile Text.isAsciiDigit)
  | cs => some (0, cs)

/-- Reads one item. -/
def Item.read? (r : Reading) (cs : List Char) : Item → Option (Reading × List Char)
  | year => (readYear? cs).map fun (n, rest) ↦ ({ r with year := n }, rest)
  | month => (readTwo? 1 12 cs).map fun (n, rest) ↦ ({ r with month := n }, rest)
  | day => (readTwo? 1 31 cs).map fun (n, rest) ↦ ({ r with day := n }, rest)
  | hour => (readTwo? 0 23 cs).map fun (n, rest) ↦ ({ r with hour := n }, rest)
  | minute => (readTwo? 0 59 cs).map fun (n, rest) ↦ ({ r with minute := n }, rest)
  | second => (readTwo? 0 60 cs).map fun (n, rest) ↦ ({ r with second := n }, rest)
  | fraction => (readFraction? cs).map fun (n, rest) ↦ ({ r with nano := n }, rest)
  | space => some (r, Text.trimStart cs)
  | mark c =>
    match cs with
    | d :: rest => if c = d then some (r, rest) else none
    | [] => none

/-- Reads items to the end of a text. -/
def readItems? (r : Reading) (cs : List Char) : List Item → Option Reading
  | [] => if cs = [] then some r else none
  | item :: rest => do
    let (r, cs) ← item.read? r cs
    readItems? r cs rest

/-- The time that was read, if the calendar has its date. A sixtieth second is a leap second. -/
def Reading.timestamp? (r : Reading) : Option Timestamp := do
  let day ← dayOf? r.year r.month r.day
  let (second, nano) := if r.second = 60 then (59, r.nano + 1000000000) else (r.second, r.nano)
  return ⟨day, r.hour * 3600 + r.minute * 60 + second, nano⟩

/-- Reads a time in a layout. -/
def parse? (layout : List Item) (text : String) : Option Timestamp := do
  (← readItems? {} text.toList layout).timestamp?

/-- The layout of settings: `2024-05-01T09:30:00`, with or without a fraction, and with white space
after any number. -/
def looseLayout : List Item := [
  .year, .space, .mark '-', .month, .space, .mark '-', .day, .space, .mark 'T',
  .hour, .space, .mark ':', .minute, .space, .mark ':', .second, .fraction, .space]

/-- The layouts of a command line: the time follows the date after a letter or after a blank. -/
def strictLayouts : List (List Item) := [
  [.year, .mark '-', .month, .mark '-', .day, .mark 'T',
    .hour, .mark ':', .minute, .mark ':', .second],
  [.year, .mark '-', .month, .mark '-', .day, .space,
    .hour, .mark ':', .minute, .mark ':', .second]]

/-- Reads a time of settings. -/
def parseLoose? (text : String) : Option Timestamp :=
  parse? looseLayout text

/-- Reads a time of a command line. -/
def parseStrict? (text : String) : Option Timestamp :=
  strictLayouts.findSome? fun layout ↦ parse? layout text

end DiagramMigrations.Calendar
