/-!
# Sets of code points

A property of characters is kept as the ranges of code points that have it,
ends included. `inRanges` is the membership test.
-/

namespace Lexis.Text

/-- The code points from the first number to the second, both included. -/
abbrev CodeRange := Nat × Nat

/-- Whether the code point of `c` lies in one of the ranges. -/
def inRanges (ranges : List CodeRange) (c : Char) : Bool :=
  ranges.any fun range => decide (range.1 ≤ c.toNat) && decide (c.toNat ≤ range.2)

end Lexis.Text
