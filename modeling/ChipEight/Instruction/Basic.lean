/-!
# Instruction words and their fields

A word of sixteen bits is read as four nibbles. The top one chooses a family of
instructions, and the other three are read separately, in pairs or together as
the operands that the family asks for.

An instruction is kept as its fields and may also be put together by hand, with
fields that no word has.
-/

namespace ChipEight

/-- The fields of an instruction: `op` is the top nibble, `x` and `y` name
registers, and `n`, `nn` and `nnn` are the low four, eight and twelve bits. -/
structure Instruction where
  word : Int
  op : Int
  x : Int := 0
  y : Int := 0
  n : Int := 0
  nn : Int := 0
  nnn : Int := 0
  deriving DecidableEq, Repr

namespace Instruction

/-- The fields of the low sixteen bits of a word. -/
def ofWord (word : Int) : Instruction :=
  let w := word % 65536
  { word := w
    op := w / 4096
    x := w / 256 % 16
    y := w / 16 % 16
    n := w % 16
    nn := w % 256
    nnn := w % 4096 }

end Instruction

end ChipEight
