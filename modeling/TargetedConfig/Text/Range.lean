/-!
# Ranges of code points

Character classes are given as ascending lists of closed ranges of code points.
-/

namespace TargetedConfig.Text

/-- Membership in an ascending list of closed ranges; the search ends at the first range beyond. -/
def inRanges : List (Nat × Nat) → Nat → Bool
  | [], _ => false
  | (low, high) :: rest, code =>
    if code < low then false else if code ≤ high then true else inRanges rest code

end TargetedConfig.Text
