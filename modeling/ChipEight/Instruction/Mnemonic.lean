import ChipEight.Instruction.Basic

/-!
# Short names of instructions

The name under which executions are counted. It leaves the operands out, so the
register form and the immediate form of one operation share it. An instruction
that is in no table is named after its family, with a question mark.
-/

namespace ChipEight.Instruction

/-- The names of the families that are one instruction each, by the top digit. -/
def familyMnemonics : List (Int × String) := [
  (0x1, "JP"), (0x2, "CALL"), (0x3, "SE"), (0x4, "SNE"), (0x5, "SE"), (0x6, "LD"),
  (0x7, "ADD"), (0x9, "SNE"), (0xA, "LD I"), (0xB, "JP V0"), (0xC, "RND"), (0xD, "DRW")]

/-- The names in the system family, by the low byte. -/
def systemMnemonics : List (Int × String) := [(0xE0, "CLS"), (0xEE, "RET")]

/-- The names of register arithmetic, by the low digit. -/
def arithmeticMnemonics : List (Int × String) := [
  (0x0, "LD"), (0x1, "OR"), (0x2, "AND"), (0x3, "XOR"), (0x4, "ADD"), (0x5, "SUB"),
  (0x6, "SHR"), (0x7, "SUBN"), (0xE, "SHL")]

/-- The names in the key family, by the low byte. -/
def keyMnemonics : List (Int × String) := [(0x9E, "SKP"), (0xA1, "SKNP")]

/-- The names in the misc family, by the low byte. -/
def miscMnemonics : List (Int × String) := [
  (0x07, "LD Vx,DT"), (0x0A, "LD Vx,K"), (0x15, "LD DT,Vx"), (0x18, "LD ST,Vx"),
  (0x1E, "ADD I,Vx"), (0x29, "LD F,Vx"), (0x33, "LD B,Vx"), (0x55, "LD [I],Vx"),
  (0x65, "LD Vx,[I]")]

/-- The name of an instruction. -/
def mnemonic (i : Instruction) : String :=
  match i.op with
  | 0x0 => (systemMnemonics.lookup i.nn).getD "SYS?"
  | 0x8 => (arithmeticMnemonics.lookup i.n).getD "ALU?"
  | 0xE => (keyMnemonics.lookup i.nn).getD "KEY?"
  | 0xF => (miscMnemonics.lookup i.nn).getD "MISC?"
  | op => (familyMnemonics.lookup op).getD "UNKNOWN"

end ChipEight.Instruction
