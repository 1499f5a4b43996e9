import ChipEight.Instruction.Decode
import ChipEight.Instruction.Mnemonic
import ChipEight.Machine.Execute

/-!
# One instruction cycle

Fetch, decode, count, execute, tick. An instruction is counted as soon as it is
decoded, so one that fails is counted too; the cycle count, the waiting flag
and the timers move only when it succeeds.
-/

namespace ChipEight.Machine

open Numeral (hex decimal)

/-- The line a trace shows for an instruction about to be executed. -/
def traceLine (m : Machine) (word : Nat) (mnemonic : String) : String :=
  "DEBUG pc=0x" ++ hex 3 m.pc ++ " word=0x" ++ hex 4 word ++ " "
    ++ Text.padRight 9 mnemonic ++ " I=0x" ++ hex 3 m.index
    ++ " DT=" ++ decimal m.delay ++ " ST=" ++ decimal m.sound

/-- The instruction at the program counter. -/
def fetch : Exec Instruction := fun m =>
  match m.memory.read16 m.pc with
  | .error e => .error e m
  | .ok word =>
      match Instruction.decode word (some m.pc) with
      | .error e => .error e m
      | .ok i => .ok i { m with journal := m.journal.note (m.traceLine word i.mnemonic) }

/-- Whether an instruction waits for a key. -/
def awaitsKey (i : Instruction) : Bool := i.op == 0xF && i.nn == 0x0A

/-- Moves on from an instruction that was executed. -/
def advance (i : Instruction) (next : Int) (m : Machine) : Machine :=
  let pc := next % 65536
  { m with
    pc := pc
    waitingForKey := pc == m.pc && awaitsKey i
    cycles := m.cycles + 1 }.tick

/-- One instruction cycle. -/
def step : Exec Unit := do
  let i ← fetch
  modify fun m => { m with statistics := m.statistics.bump i.mnemonic }
  let next ← i.execute
  modify (advance i next)

end ChipEight.Machine
