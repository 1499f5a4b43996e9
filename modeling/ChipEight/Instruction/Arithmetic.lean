/-!
# Register arithmetic

The nine operations that combine two registers. Five of them also report
something in the flag register: a carry, the absence of a borrow, or the bit
that a shift pushes out. A left shift reports that bit where it stood, as 128,
and a right shift reports it as 1.
-/

namespace ChipEight

/-- The operations on a destination and a second register. -/
inductive Arithmetic where
  | copy
  | or
  | and
  | xor
  | add
  | sub
  | shiftRight
  | subFrom
  | shiftLeft
  deriving DecidableEq, Repr

namespace Arithmetic

/-- What the destination receives. -/
def result : Arithmetic → UInt8 → UInt8 → UInt8
  | copy, _, b => b
  | or, a, b => a ||| b
  | and, a, b => a &&& b
  | xor, a, b => a ^^^ b
  | add, a, b => a + b
  | sub, a, b => a - b
  | shiftRight, a, _ => a >>> 1
  | subFrom, a, b => b - a
  | shiftLeft, a, _ => a <<< 1

/-- What the flag register receives, if anything. -/
def flag? : Arithmetic → UInt8 → UInt8 → Option UInt8
  | copy, _, _ => none
  | or, _, _ => none
  | and, _, _ => none
  | xor, _, _ => none
  | add, a, b => some (if a.toNat + b.toNat > 255 then 1 else 0)
  | sub, a, b => some (if b ≤ a then 1 else 0)
  | shiftRight, a, _ => some (a &&& 1)
  | subFrom, a, b => some (if a ≤ b then 1 else 0)
  | shiftLeft, a, _ => some (a &&& 128)

end Arithmetic

end ChipEight
