import DiagramMigrations.Text.Alphanumeric
import DiagramMigrations.Text.Blank
import DiagramMigrations.Text.Lowercase
import DiagramMigrations.Text.Uppercase

/-!
The words of a display name. Everything that is neither a letter nor a digit separates words; inside
a run of letters and digits a word ends before a capital that follows a small letter (`orderLine`),
and before the last of several capitals when a small letter follows it (`HTTPRequest`).
-/

set_option autoImplicit false
set_option relaxedAutoImplicit false

namespace DiagramMigrations.Text

/-- The case of the last cased character of the word read so far; `fresh` before there is one. -/
inductive LetterCase
  | fresh
  | small
  | capital
  deriving DecidableEq, Repr

/-- The case after one more character: a caseless one leaves it as it was. -/
def LetterCase.after (mode : LetterCase) (c : Char) : LetterCase :=
  if isLowercase c then .small else if isUppercase c then .capital else mode

/-- Cuts a run of letters and digits into words. `word` holds the characters of the current word in
reverse order, and `mode` their case. -/
def cutRun (mode : LetterCase) (word : List Char) : List Char → List (List Char)
  | [] => []
  | [c] => [(c :: word).reverse]
  | c :: next :: rest =>
    if mode.after c = .small ∧ isUppercase next then
      (c :: word).reverse :: cutRun .fresh [] (next :: rest)
    else if mode = .capital ∧ isUppercase c ∧ isLowercase next then
      word.reverse :: cutRun .fresh [c] (next :: rest)
    else
      cutRun (mode.after c) (c :: word) (next :: rest)

/-- The words of a text, in order and as they are written. -/
def words (cs : List Char) : List (List Char) :=
  (runsOf isAlphanumeric cs).flatMap (cutRun .fresh [])

end DiagramMigrations.Text
