import ChipEight.Instruction.Decode
import ChipEight.Numeral.Hex

/-!
# Listings

The conventional assembly text of instructions and of whole program images.
Registers are written with one hexadecimal digit, bytes with two, addresses with
three and words with four.

Programs mix instructions and data, so a listing shows every word: one that is
no instruction as a data word, and a last odd byte as a data byte.
-/

namespace ChipEight

open Numeral (hex)

namespace Disassembly

/-- A register's name. -/
def registerName (index : Int) : String := "V" ++ hex 1 index

/-- A byte operand. -/
def byteText (v : Int) : String := "0x" ++ hex 2 v

/-- An address operand. -/
def addressText (v : Int) : String := "0x" ++ hex 3 v

/-- A whole word. -/
def wordText (v : Int) : String := "0x" ++ hex 4 v

/-- A name with its operands. -/
def line (name : String) (operands : List String) : String :=
  name ++ " " ++ String.intercalate ", " operands

end Disassembly

open Disassembly

namespace Instruction

/-- The text of the system family. -/
def systemText? (i : Instruction) : Option String :=
  match i.nn with
  | 0xE0 => some "CLS"
  | 0xEE => some "RET"
  | _ => none

/-- The names of register arithmetic, by the low digit. -/
def arithmeticNames : List (Int × String) := [
  (0x0, "LD"), (0x1, "OR"), (0x2, "AND"), (0x3, "XOR"), (0x4, "ADD"), (0x5, "SUB"),
  (0x6, "SHR"), (0x7, "SUBN"), (0xE, "SHL")]

/-- The text of register arithmetic. The shifts are written with one register. -/
def arithmeticText? (i : Instruction) : Option String :=
  match arithmeticNames.lookup i.n with
  | none => none
  | some name =>
      if name = "SHR" ∨ name = "SHL" then some (line name [registerName i.x])
      else some (line name [registerName i.x, registerName i.y])

/-- The text of the key family, in which every selector but one is taken for the
other. -/
def keyText (i : Instruction) : String :=
  line (if i.nn = 0x9E then "SKP" else "SKNP") [registerName i.x]

/-- The text of the misc family. -/
def miscText? (i : Instruction) : Option String :=
  let x := registerName i.x
  match i.nn with
  | 0x07 => some (line "LD" [x, "DT"])
  | 0x0A => some (line "LD" [x, "K"])
  | 0x15 => some (line "LD" ["DT", x])
  | 0x18 => some (line "LD" ["ST", x])
  | 0x1E => some (line "ADD" ["I", x])
  | 0x29 => some (line "LD" ["F", x])
  | 0x33 => some (line "LD" ["B", x])
  | 0x55 => some (line "LD" ["[I]", x])
  | 0x65 => some (line "LD" [x, "[I]"])
  | _ => none

/-- The assembly text of an instruction, if the listing has one for it. -/
def text? (i : Instruction) : Option String :=
  let x := registerName i.x
  let y := registerName i.y
  match i.op with
  | 0x0 => i.systemText?
  | 0x1 => some (line "JP" [addressText i.nnn])
  | 0x2 => some (line "CALL" [addressText i.nnn])
  | 0x3 => some (line "SE" [x, byteText i.nn])
  | 0x4 => some (line "SNE" [x, byteText i.nn])
  | 0x5 => some (line "SE" [x, y])
  | 0x6 => some (line "LD" [x, byteText i.nn])
  | 0x7 => some (line "ADD" [x, byteText i.nn])
  | 0x8 => i.arithmeticText?
  | 0x9 => some (line "SNE" [x, y])
  | 0xA => some (line "LD" ["I", addressText i.nnn])
  | 0xB => some (line "JP" ["V0", addressText i.nnn])
  | 0xC => some (line "RND" [x, byteText i.nn])
  | 0xD => some (line "DRW" [x, y, Numeral.decimal i.n])
  | 0xE => some i.keyText
  | 0xF => i.miscText?
  | _ => none

/-- The assembly text of an instruction. Where there is none, its word is shown. -/
def text (i : Instruction) : String :=
  i.text?.getD ("??? (" ++ wordText i.word ++ ")")

end Instruction

namespace Disassembly

/-- The text of a word, which is shown whole where it is no instruction. -/
def ofWord (w : Int) : String :=
  match Instruction.decode w none with
  | .ok i => i.text
  | .error _ => "DW " ++ wordText w

/-- One line of a listing. -/
structure Line where
  address : Int
  word : Nat
  text : String
  deriving DecidableEq, Repr

/-- The listing of a program image whose first byte is loaded at `base`. -/
def ofImage (base : Int) : List UInt8 → List Line
  | [] => []
  | [last] => [⟨base, last.toNat, "DB " ++ byteText last.toNat⟩]
  | high :: low :: rest =>
      let w := high.toNat * 256 + low.toNat
      ⟨base, w, ofWord w⟩ :: ofImage (base + 2) rest

end Disassembly

end ChipEight
