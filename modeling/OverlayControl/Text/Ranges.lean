/-!
# Sets of characters given by ranges

A property of characters is kept as the list of its ranges, in ascending order.
-/

namespace OverlayControl.Text

/-- Whether a number lies in one of the ranges, which ascend. -/
def inRanges (n : Nat) : List (Nat × Nat) → Bool
  | [] => false
  | (low, high) :: rest => if n < low then false else n ≤ high || inRanges n rest

end OverlayControl.Text
