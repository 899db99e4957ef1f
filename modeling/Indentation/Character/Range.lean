/-!
# Sets of code points

A class of characters is given by the closed intervals of its code points, in ascending order.

## Main definitions

* `CodeRanges` — ascending closed intervals
* `CodeRanges.contains` — whether an interval holds a code point
-/

namespace Indentation

/-- Closed intervals of code points, in ascending order. -/
abbrev CodeRanges := List (Nat × Nat)

/-- Whether one of the intervals holds `code`. The search stops at the first interval above it. -/
def CodeRanges.contains : CodeRanges → Nat → Bool
  | [], _ => false
  | (low, high) :: ranges, code =>
    if code < low then false else code ≤ high || contains ranges code

end Indentation
