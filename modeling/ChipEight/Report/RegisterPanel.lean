import ChipEight.Machine.Basic

/-!
# The register panel

Four rows of four registers, a line with the index register, the program counter
and both timers, and a line with the call stack, oldest call first.
-/

namespace ChipEight.Report

open Numeral (hex decimal)

/-- One register with its value. -/
def registerText (index : Nat) (value : UInt8) : String :=
  "V" ++ hex 1 index ++ "=0x" ++ hex 2 value.toNat

/-- A row of registers, beginning with the one at `index`. -/
def registerRow (index : Nat) (values : List UInt8) : String :=
  String.intercalate "  " (values.zipIdx.map fun (v, i) => registerText (index + i) v)

/-- Registers in rows of four. -/
def registerRows (r : Registers) : List String :=
  [0, 4, 8, 12].map fun i => registerRow i ((r.toList.drop i).take 4)

/-- The call stack. -/
def stackText (s : CallStack) : String :=
  let frames := s.frames
  "Stack[" ++ decimal frames.length ++ "/" ++ decimal s.capacity ++ "]: "
    ++ (if frames.isEmpty then "empty"
      else String.intercalate " " (frames.map fun a => "0x" ++ hex 3 a.toNat))

/-- A timer's value, in three places. -/
def timerText (v : Int) : String := Text.padLeft 3 (decimal v)

/-- The lines of the panel. -/
def registerLines (m : Machine) : List String :=
  registerRows m.registers
    ++ ["I=0x" ++ hex 4 m.index ++ "  PC=0x" ++ hex 4 m.pc ++ "  DT=" ++ timerText m.delay
      ++ "  ST=" ++ timerText m.sound, stackText m.calls]

/-- The panel's content as one text. -/
def registers (m : Machine) : String := String.intercalate "\n" (registerLines m)

end ChipEight.Report
