/-!
# Ranges of code points

A property of characters is stored as the list of the maximal intervals on which it holds, in
increasing order.  `Ranges.contains` looks a code point up and stops at the first interval that
lies beyond it.
-/

namespace Signpost.Unicode

/-- Closed intervals of code points, in increasing order and apart from one another. -/
abbrev Ranges := List (Nat × Nat)

/-- Whether a code point lies in one of the intervals. -/
def Ranges.contains : Ranges → Nat → Bool
  | [], _ => false
  | (low, high) :: later, code =>
      if code < low then false else if code ≤ high then true else Ranges.contains later code

end Signpost.Unicode
