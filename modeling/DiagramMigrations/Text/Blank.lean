/-!
White space in the sense of the property White_Space, and what is done with it at the ends and
between the fields of a text.
-/

set_option autoImplicit false
set_option relaxedAutoImplicit false

namespace DiagramMigrations.Text

/-- The property White_Space. -/
def isBlank (c : Char) : Bool :=
  let n := c.toNat
  (9 ≤ n && n ≤ 13) || n == 0x20 || n == 0x85 || n == 0xA0 || n == 0x1680 ||
    (0x2000 ≤ n && n ≤ 0x200A) || n == 0x2028 || n == 0x2029 || n == 0x202F || n == 0x205F ||
    n == 0x3000

/-- Drops white space at the front. -/
def trimStart (cs : List Char) : List Char :=
  cs.dropWhile isBlank

/-- Drops white space at the end. -/
def trimEnd (cs : List Char) : List Char :=
  (cs.reverse.dropWhile isBlank).reverse

/-- Drops white space at both ends. -/
def trim (cs : List Char) : List Char :=
  trimEnd (trimStart cs)

/-- The maximal runs of characters that satisfy `keep`, in order. -/
def runsOf (keep : Char → Bool) (cs : List Char) : List (List Char) :=
  (cs.splitOnP fun c ↦ !keep c).filter fun run ↦ !run.isEmpty

/-- The maximal runs without white space, in order. -/
def fields (cs : List Char) : List (List Char) :=
  runsOf (fun c ↦ !isBlank c) cs

/-- A text without the white space around it. -/
def trimmed (s : String) : String :=
  String.ofList (trim s.toList)

/-- Whether a text holds nothing but white space. -/
def isBlankText (s : String) : Bool :=
  s.toList.all isBlank

end DiagramMigrations.Text
