/-
# Sets of characters given by ranges

The tables of this library list ranges of code points, in increasing order.
-/
namespace GreatCircle.Text

/-- The code point lies in one of the ranges, ends included. -/
def inRanges (ranges : Array (Nat × Nat)) (code : Nat) : Bool :=
  ranges.any fun r => decide (r.1 ≤ code ∧ code ≤ r.2)

end GreatCircle.Text
