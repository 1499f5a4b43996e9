/-!
# Powers of two and of ten

The scales of binary and of decimal numbers.
-/

namespace ChipEight.Numeral

/-- A power of two. -/
abbrev twoPow (n : Nat) : Nat := Nat.pow 2 n

/-- A power of ten. -/
abbrev tenPow (n : Nat) : Nat := Nat.pow 10 n

end ChipEight.Numeral
