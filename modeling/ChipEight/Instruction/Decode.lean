import ChipEight.Fault
import ChipEight.Instruction.Basic

/-!
# Decoding

In four families a word names its instruction with a selector: the low byte in the
system, key and misc families, the low digit in register arithmetic. A word with a
selector that is not used is refused, together with the address it came from. All
words of the other families are instructions, whatever their low digits are.
-/

namespace ChipEight.Instruction

/-- The selectors of the system family. -/
def systemSelectors : List Int := [0xE0, 0xEE]

/-- The selectors of register arithmetic. -/
def arithmeticSelectors : List Int := [0x0, 0x1, 0x2, 0x3, 0x4, 0x5, 0x6, 0x7, 0xE]

/-- The selectors of the key family. -/
def keySelectors : List Int := [0x9E, 0xA1]

/-- The selectors of the misc family. -/
def miscSelectors : List Int := [0x07, 0x0A, 0x15, 0x18, 0x1E, 0x29, 0x33, 0x55, 0x65]

/-- The instruction in the low sixteen bits of a word. -/
def decode (word : Int) (address : Option Int) : Except Fault Instruction :=
  let i := ofWord word
  let refused := Except.error (.unknownInstruction i.word address)
  if i.op = 0x0 ∧ i.nn ∉ systemSelectors then refused
  else if i.op = 0x8 ∧ i.n ∉ arithmeticSelectors then refused
  else if i.op = 0xE ∧ i.nn ∉ keySelectors then refused
  else if i.op = 0xF ∧ i.nn ∉ miscSelectors then refused
  else .ok i

end ChipEight.Instruction
