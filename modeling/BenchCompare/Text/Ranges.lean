/-!
# Ranges of code points

A set of characters is a sorted list of closed ranges of code points; `inRanges` is membership.
-/

namespace BenchCompare.Text

/-- Membership in a sorted list of closed ranges. -/
def inRanges (n : Nat) : List (Nat × Nat) → Bool
  | [] => false
  | (lo, hi) :: rest => if n < lo then false else if n ≤ hi then true else inRanges n rest

end BenchCompare.Text
