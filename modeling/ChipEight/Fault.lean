import ChipEight.Numeral.Hex

/-!
# What can go wrong inside the machine

A fault is a cause, not a sentence. Its sentence is written here, once, and
everything that reports a fault reports that sentence.
-/

namespace ChipEight

/-- The two ways to reach for a register. -/
inductive RegisterAccess where
  | read
  | write
  deriving DecidableEq, Repr

/-- The causes for which a machine stops. -/
inductive Fault where
  /-- An access that starts at this address leaves the memory. -/
  | outOfBounds (address : Int)
  /-- The word is no instruction; the address is where it was fetched, if it was. -/
  | unknownInstruction (word : Int) (address : Option Int)
  /-- A call from this site found every slot in use. -/
  | callStackOverflow (capacity : Nat) (site : Int)
  /-- A return found no call to return from. -/
  | callStackUnderflow
  /-- No register has the index that was asked for. -/
  | noSuchRegister (access : RegisterAccess)
  deriving DecidableEq, Repr

namespace Fault

open Numeral (hex)

/-- The one sentence that says what happened. -/
def message : Fault → String
  | outOfBounds address => "Access out of bounds: 0x" ++ hex 4 address
  | unknownInstruction word none => "Unknown instruction 0x" ++ hex 4 word
  | unknownInstruction word (some address) =>
      "Unknown instruction 0x" ++ hex 4 word ++ " at 0x" ++ hex 3 address
  | callStackOverflow capacity site =>
      "Call stack overflow (depth " ++ Numeral.decimal capacity ++ ") calling from 0x"
        ++ hex 3 site
  | callStackUnderflow => "Return with empty call stack"
  | noSuchRegister .read => "list index out of range"
  | noSuchRegister .write => "list assignment index out of range"

end Fault

end ChipEight
