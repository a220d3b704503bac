/-!
Local times on the proleptic Gregorian calendar, with leap seconds: adding seconds, and the texts
that sort and show them.
-/

set_option autoImplicit false
set_option relaxedAutoImplicit false

namespace DiagramMigrations

namespace Calendar

/-- The number of days from the first day of year zero to the first day of a year. -/
def yearStart (year : Int) : Int :=
  365 * year + (year + 3) / 4 - (year + 99) / 100 + (year + 399) / 400

/-- The year of a day, counted from the first day of year zero. The mean length of a year leads to
the year or to one beside it. -/
def yearOf (day : Int) : Int :=
  let year := day * 400 / 146097
  if day < yearStart year then year - 1
  else if yearStart (year + 1) ≤ day then year + 1
  else year

/-- Whether a year has a leap day. -/
def isLeap (year : Int) : Bool :=
  year % 4 = 0 && (year % 100 ≠ 0 || year % 400 = 0)

/-- The lengths of the months of a year. -/
def monthLengths (year : Int) : List Nat :=
  [31, if isLeap year then 29 else 28, 31, 30, 31, 30, 31, 31, 30, 31, 30, 31]

/-- The month and the day of the month of a day that lies `days` after the start of the months
given, the first of which is `month`. -/
def monthOf (month days : Nat) : List Nat → Nat × Nat
  | [] => (month, days + 1)
  | length :: rest => if days < length then (month, days + 1)
    else monthOf (month + 1) (days - length) rest

/-- A day as year, month and day of the month. -/
def dateOf (day : Int) : Int × Nat × Nat :=
  let year := yearOf day
  (year, monthOf 1 (day - yearStart year).toNat (monthLengths year))

/-- The number of days in the months of a year before a month. -/
def daysBefore (year : Int) (month : Nat) : Nat :=
  ((monthLengths year).take (month - 1)).foldl (fun days length ↦ days + length) 0

/-- The day of a date, if the calendar has it. -/
def dayOf? (year : Int) (month day : Nat) : Option Int := do
  let length ← (monthLengths year)[month - 1]?
  if month = 0 ∨ day = 0 ∨ length < day then none
  else some (yearStart year + daysBefore year month + (day - 1 : Nat))

/-- The first and the last year in which times are told. -/
def firstYear : Int := -262143

/-- The last year in which times are told. -/
def lastYear : Int := 262142

/-- A number with zeros before it, up to a width. -/
def padded (width n : Nat) : String :=
  let digits := Nat.toDigits 10 n
  String.ofList (List.replicate (width - digits.length) '0' ++ digits)

/-- A year of four digits, or a sign and at least four digits. -/
def yearText (year : Int) : String :=
  if 0 ≤ year ∧ year ≤ 9999 then padded 4 year.toNat
  else (if year < 0 then "-" else "+") ++ padded 4 year.natAbs

end Calendar

/-- A time of a day: the second of the day, and the nanoseconds after it. From a second of
nanoseconds on, the time lies in the leap second that follows. -/
structure Timestamp where
  day : Int
  second : Nat
  nano : Nat
  deriving DecidableEq, Repr

namespace Timestamp

open Calendar

/-- Whether a time lies in a leap second. -/
def inLeapSecond (t : Timestamp) : Bool :=
  1000000000 ≤ t.nano

/-- The time a number of seconds later; nothing if it is not told any more. -/
def addSeconds? (t : Timestamp) (n : Nat) : Option Timestamp :=
  if n = 0 then some t
  else
    let second := t.second + n
    let day := t.day + (second / 86400 : Nat)
    if day < yearStart (lastYear + 1) then some ⟨day, second % 86400, t.nano % 1000000000⟩
    else none

/-- The seconds of the minute that a clock shows; sixty in a leap second. -/
def shownSecond (t : Timestamp) : Nat :=
  t.second % 60 + if t.inLeapSecond then 1 else 0

/-- The token in the name of a migration: `2024_05_01_093000`. -/
def token (t : Timestamp) : String :=
  let (year, month, day) := dateOf t.day
  yearText year ++ "_" ++ padded 2 month ++ "_" ++ padded 2 day ++ "_" ++
    padded 2 (t.second / 3600) ++ padded 2 (t.second / 60 % 60) ++ padded 2 t.shownSecond

/-- The fraction of the second in three, six or nine digits, if it is not zero. -/
def fractionText (t : Timestamp) : String :=
  let nano := t.nano % 1000000000
  if nano = 0 then ""
  else if nano % 1000000 = 0 then "." ++ padded 3 (nano / 1000000)
  else if nano % 1000 = 0 then "." ++ padded 6 (nano / 1000)
  else "." ++ padded 9 nano

/-- The time as it is shown: `2024-05-01 09:30:00`. -/
def text (t : Timestamp) : String :=
  let (year, month, day) := dateOf t.day
  yearText year ++ "-" ++ padded 2 month ++ "-" ++ padded 2 day ++ " " ++
    padded 2 (t.second / 3600) ++ ":" ++ padded 2 (t.second / 60 % 60) ++ ":" ++
    padded 2 t.shownSecond ++ t.fractionText

end Timestamp

end DiagramMigrations
