/-!
# Ranges of code points

Properties of characters are given as ascending lists of closed ranges of code points.

## Main definitions

* `Range` — a closed range of code points
* `inRanges` — membership of a code point in an ascending list of ranges
-/

namespace MessageExpr.Unicode

/-- A closed range of code points, by its first and its last one. -/
abbrev Range := Nat × Nat

/-- Whether `n` lies in one of the ranges. The list is ascending, so the search ends at the
first range above `n`. -/
def inRanges : List Range → Nat → Bool
  | [], _ => false
  | (first, last) :: rest, n =>
    if n < first then false else if n ≤ last then true else inRanges rest n

end MessageExpr.Unicode
