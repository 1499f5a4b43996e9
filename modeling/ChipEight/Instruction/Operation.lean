import ChipEight.Instruction.Arithmetic

/-!
# What an instruction asks the machine to do

The thirty-four instructions as one type, each with the operands it uses and no
others. The executor chooses one of them by an instruction's fields.
-/

namespace ChipEight

/-- The conditions under which the next instruction is skipped. -/
inductive Condition where
  | equalsByte (x value : Int)
  | differsFromByte (x value : Int)
  | equalsRegister (x y : Int)
  | differsFromRegister (x y : Int)
  | keyHeld (x : Int)
  | keyNotHeld (x : Int)
  deriving DecidableEq, Repr

/-- The instructions of the machine. -/
inductive Operation where
  | clearScreen
  | ret
  | jump (target : Int)
  | call (target : Int)
  | skip (condition : Condition)
  | loadByte (x value : Int)
  | addByte (x value : Int)
  | arithmetic (f : Arithmetic) (x y : Int)
  | loadIndex (address : Int)
  | jumpOffset (base : Int)
  | random (x mask : Int)
  | draw (x y rows : Int)
  | readDelay (x : Int)
  | awaitKey (x : Int)
  | setDelay (x : Int)
  | setSound (x : Int)
  | addIndex (x : Int)
  | pointAtGlyph (x : Int)
  | storeDigits (x : Int)
  | storeRegisters (x : Int)
  | loadRegisters (x : Int)
  deriving DecidableEq, Repr

end ChipEight
