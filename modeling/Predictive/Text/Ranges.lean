/-!
# Ranges of code points

A property of characters beyond ASCII is given by the list of the ranges that have it, in ascending
order. The search stops at the first range above the code point.
-/
namespace Predictive

abbrev Ranges := List (Nat × Nat)

/-- Whether a code point lies in one of the ranges, which ascend. -/
def inRanges : Ranges → Nat → Bool
  | [], _ => false
  | (low, high) :: rest, n => if n < low then false else if n ≤ high then true else inRanges rest n

end Predictive
