/-!
Character classes as ascending lists of runs of code points. A run may skip every other code point,
as the tables of cased letters do.
-/

set_option autoImplicit false
set_option relaxedAutoImplicit false

namespace DiagramMigrations.Text

/-- A run holds its first code point, its last, and the distance from each member to the next. -/
abbrev CodeRun := Nat × Nat × Nat

/-- Whether a code point lies on one of the runs, which stand in ascending order. -/
def inRuns : List CodeRun → Nat → Bool
  | [], _ => false
  | (first, last, stride) :: rest, n =>
    if n < first then false
    else if n ≤ last && (n - first) % stride == 0 then true
    else inRuns rest n

end DiagramMigrations.Text
