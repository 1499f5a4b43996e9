/-!
# Ranges of code points

Classes of characters are kept as lists of ranges.
-/

namespace ChipEight.Text

/-- A range of code points, both ends included. -/
structure CodeRange where
  first : Nat
  last : Nat
  deriving DecidableEq, Repr

/-- Whether a code point lies in one of some ranges. -/
def CodeRange.anyContains (ranges : List CodeRange) (n : Nat) : Bool :=
  ranges.any fun r => r.first ≤ n && n ≤ r.last

end ChipEight.Text
