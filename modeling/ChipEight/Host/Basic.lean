import ChipEight.Files
import ChipEight.Machine.Run

/-!
# What a program asks of its surroundings

Commands do not touch the world. They ask a host: to write to a stream, for the
bytes of a file, for the time, and how deep a text that they read may be nested.
What a command does with the answers is the same whoever gives them, and a host
may as well be a value in memory.
-/

namespace ChipEight

/-- The streams a program writes to. -/
inductive Stream where
  | out
  | err
  deriving DecidableEq, Repr

/-- The calls that may be open at a time. -/
def maxCalls : Nat := 1000

/-- The calls that are open when a configuration begins to be read. -/
def openCalls : Nat := 12

/-- The services of a host. -/
class Host (m : Type → Type) where
  /-- Writes to a stream. -/
  emit : Stream → String → m Unit
  /-- The bytes of the file of a name. -/
  read : String → m (Except FileFault (List UInt8))
  /-- Puts bytes into the file of a name. -/
  write : String → List UInt8 → m (Except FileFault Unit)
  /-- How many containers a text that is read may have inside each other. -/
  room : m Nat
  /-- A number that nobody can foresee. -/
  entropy : m Int
  /-- The time in seconds. -/
  now : m Number
  /-- Runs a machine at its rate. -/
  drive : Machine.Limits → Machine → m (Machine.Outcome Number)
  /-- Carries out work whose result nobody reads. -/
  labour : (Unit → Nat) → m Unit

end ChipEight
