/-!
Sets of code points written as ascending, disjoint ranges with both ends included.
-/

namespace ServiceSyntax.Text

/-- Membership in ascending ranges: the first range that does not end before `n` decides. -/
def inRanges (n : Nat) : List (Nat × Nat) → Bool
  | [] => false
  | (low, high) :: rest => if n ≤ high then decide (low ≤ n) else inRanges n rest

end ServiceSyntax.Text
