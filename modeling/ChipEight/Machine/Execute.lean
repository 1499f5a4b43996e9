import ChipEight.Instruction.Basic
import ChipEight.Instruction.Operation
import ChipEight.Machine.Basic

/-!
# Executing instructions

An action takes a machine to a machine and an answer, or to a fault and the
machine as the fault left it: what was done before the fault stays done. The
actions at the top touch one component each. The operations are written in
them, and each answers with the address of the next instruction, not yet cut to
sixteen bits.
-/

namespace ChipEight

/-- An action on a machine, which may fail and leave the machine changed. -/
abbrev Exec := EStateM Fault Machine

namespace Machine

/-- An action that does not change the machine. -/
def inspect {α : Type} (f : Machine → Except Fault α) : Exec α := fun m =>
  match f m with
  | .ok a => .ok a m
  | .error e => .error e m

/-- The value of a register. -/
def readRegister (i : Int) : Exec UInt8 := inspect fun m => m.registers.read i

/-- Stores the low eight bits of a value in a register. -/
def writeRegister (i v : Int) : Exec Unit := fun m =>
  match m.registers.write i v with
  | .ok r => .ok () { m with registers := r }
  | .error e => .error e m

/-- The byte at an address. -/
def load (a : Int) : Exec UInt8 := inspect fun m => m.memory.read8 a

/-- Stores the low eight bits of a value in memory. -/
def store (a v : Int) : Exec Unit := fun m =>
  match m.memory.write8 a v with
  | .ok memory => .ok () { m with memory := memory }
  | .error e => .error e m

/-- One poll of the input device. -/
def pollKey : Exec (Option Int) := fun m =>
  let (k, keys) := m.keys.poll
  .ok k { m with keys := keys }

/-- One random byte. -/
def drawByte : Exec UInt8 := fun m =>
  let (b, random) := m.random.draw
  .ok b { m with random := random }

/-- Enters a call from a site. -/
def pushCall (site : Int) : Exec Unit := fun m =>
  match m.calls.push site with
  | .ok calls => .ok () { m with calls := calls }
  | .error e => .error e m

/-- Leaves a call and answers with its site. -/
def popCall : Exec UInt16 := fun m =>
  match m.calls.pop with
  | .ok (site, calls) => .ok site { m with calls := calls }
  | .error e => .error e m

/-- The address `n` behind the current instruction. -/
def ahead (n : Int) : Exec Int := do
  return (← get).pc + n

/-- The next instruction, or the one after it. -/
def skipIf (condition : Bool) : Exec Int := ahead (if condition then 4 else 2)

/-- Whether the held key is the one that a register names. The register is read
only if a key is held. -/
def keyMatches (x : Int) : Exec Bool := do
  match ← pollKey with
  | none => return false
  | some key => return key == byteValue (← readRegister x)

/-- Writes a result after the flag that goes with it, so that the flag register
holds the result where it is the destination itself. -/
def writeResult (x : Int) (result : UInt8) (flag : Option UInt8) : Exec Unit := do
  match flag with
  | some f => writeRegister Registers.flag (byteValue f)
  | none => pure ()
  writeRegister x (byteValue result)

/-- Stores registers from `i` on at successive addresses, `count` of them. -/
def storeFrom (base : Int) (i : Int) : Nat → Exec Unit
  | 0 => pure ()
  | count + 1 => do
      store (base + i) (byteValue (← readRegister i))
      storeFrom base (i + 1) count

/-- Loads registers from `i` on from successive addresses, `count` of them. -/
def loadFrom (base : Int) (i : Int) : Nat → Exec Unit
  | 0 => pure ()
  | count + 1 => do
      writeRegister i (byteValue (← load (base + i)))
      loadFrom base (i + 1) count

end Machine

open Machine

/-- Whether a condition holds, as far as that can be found out. -/
def Condition.holds : Condition → Exec Bool
  | equalsByte x v => do return byteValue (← readRegister x) == v
  | differsFromByte x v => do return byteValue (← readRegister x) != v
  | equalsRegister x y => do return (← readRegister x) == (← readRegister y)
  | differsFromRegister x y => do return (← readRegister x) != (← readRegister y)
  | keyHeld x => keyMatches x
  | keyNotHeld x => do return !(← keyMatches x)

/-- Carries out an operation and answers with the address that comes next. -/
def Operation.execute : Operation → Exec Int
  | clearScreen => do
      modify fun m => { m with display := .blank }.present
      ahead 2
  | ret => do return ((← popCall).toNat + 2) % 65536
  | jump a => return a
  | call a => do
      pushCall (← get).pc
      return a
  | skip c => do skipIf (← c.holds)
  | loadByte x v => do
      writeRegister x v
      ahead 2
  | addByte x v => do
      writeRegister x (byteValue (← readRegister x) + v)
      ahead 2
  | arithmetic f x y => do
      let a ← readRegister x
      let b ← readRegister y
      writeResult x (f.result a b) (f.flag? a b)
      ahead 2
  | loadIndex a => do
      modify fun m => { m with index := a }
      ahead 2
  | jumpOffset a => do return (a + byteValue (← readRegister 0)) % 65536
  | random x mask => do
      let b ← drawByte
      writeRegister x (byteValue (b &&& lowByte mask))
      ahead 2
  | draw x y n => do
      let rows ← inspect fun m => m.memory.readBlock m.index n
      let column ← readRegister x
      let row ← readRegister y
      let (display, hit) :=
        (← get).display.drawSprite (byteValue column) (byteValue row) rows
      modify fun m => { m with display := display }
      writeRegister Registers.flag (if hit then 255 else 0)
      modify present
      ahead 2
  | readDelay x => do
      writeRegister x (← get).delay
      ahead 2
  | awaitKey x => do
      match ← pollKey with
      | none => ahead 0
      | some key =>
          writeRegister x key
          ahead 2
  | setDelay x => do
      let v ← readRegister x
      modify fun m => { m with delay := byteValue v }
      ahead 2
  | setSound x => do
      let v ← readRegister x
      modify fun m => { m with sound := byteValue v }
      ahead 2
  | addIndex x => do
      let v ← readRegister x
      modify fun m => { m with index := (m.index + byteValue v) % 65536 }
      ahead 2
  | pointAtGlyph x => do
      let v ← readRegister x
      modify fun m => { m with index := Font.glyphAddress (byteValue v) }
      ahead 2
  | storeDigits x => do
      let v := byteValue (← readRegister x)
      let base := (← get).index
      store base (v / 100)
      store (base + 1) (v / 10 % 10)
      store (base + 2) (v % 10)
      ahead 2
  | storeRegisters x => do
      storeFrom (← get).index 0 (x + 1).toNat
      ahead 2
  | loadRegisters x => do
      loadFrom (← get).index 0 (x + 1).toNat
      modify fun m => { m with index := (m.index + x + 1) % 65536 }
      ahead 2

namespace Instruction

/-- The system family: clear screen and return. -/
def executeSystem (i : Instruction) : Exec Int :=
  match i.nn with
  | 0xE0 => Operation.clearScreen.execute
  | 0xEE => Operation.ret.execute
  | _ => do throw (.unknownInstruction i.word (some (← get).pc))

/-- Register arithmetic. Both registers are read before the selector is looked at,
and an unknown one is reported without an address. -/
def executeArithmetic (i : Instruction) : Exec Int := do
  let a ← readRegister i.x
  let b ← readRegister i.y
  let combine := fun f : Arithmetic => do
    writeResult i.x (f.result a b) (f.flag? a b)
    ahead 2
  match i.n with
  | 0x0 => combine .copy
  | 0x1 => combine .or
  | 0x2 => combine .and
  | 0x3 => combine .xor
  | 0x4 => combine .add
  | 0x5 => combine .sub
  | 0x6 => combine .shiftRight
  | 0x7 => combine .subFrom
  | 0xE => combine .shiftLeft
  | _ => throw (.unknownInstruction i.word none)

/-- The key family. The held key is asked for before the selector is looked at. -/
def executeKeys (i : Instruction) : Exec Int := do
  let isDown ← keyMatches i.x
  match i.nn with
  | 0x9E => skipIf isDown
  | 0xA1 => skipIf !isDown
  | _ => throw (.unknownInstruction i.word (some (← get).pc))

/-- The misc family: timers, key wait, index and blocks of memory. -/
def executeMisc (i : Instruction) : Exec Int :=
  match i.nn with
  | 0x07 => (Operation.readDelay i.x).execute
  | 0x0A => (Operation.awaitKey i.x).execute
  | 0x15 => (Operation.setDelay i.x).execute
  | 0x18 => (Operation.setSound i.x).execute
  | 0x1E => (Operation.addIndex i.x).execute
  | 0x29 => (Operation.pointAtGlyph i.x).execute
  | 0x33 => (Operation.storeDigits i.x).execute
  | 0x55 => (Operation.storeRegisters i.x).execute
  | 0x65 => (Operation.loadRegisters i.x).execute
  | _ => do throw (.unknownInstruction i.word (some (← get).pc))

/-- Carries out an instruction and answers with the address that comes next. -/
def execute (i : Instruction) : Exec Int :=
  match i.op with
  | 0x0 => i.executeSystem
  | 0x1 => (Operation.jump i.nnn).execute
  | 0x2 => (Operation.call i.nnn).execute
  | 0x3 => (Operation.skip (.equalsByte i.x i.nn)).execute
  | 0x4 => (Operation.skip (.differsFromByte i.x i.nn)).execute
  | 0x5 => (Operation.skip (.equalsRegister i.x i.y)).execute
  | 0x6 => (Operation.loadByte i.x i.nn).execute
  | 0x7 => (Operation.addByte i.x i.nn).execute
  | 0x8 => i.executeArithmetic
  | 0x9 => (Operation.skip (.differsFromRegister i.x i.y)).execute
  | 0xA => (Operation.loadIndex i.nnn).execute
  | 0xB => (Operation.jumpOffset i.nnn).execute
  | 0xC => (Operation.random i.x i.nn).execute
  | 0xD => (Operation.draw i.x i.y i.n).execute
  | 0xE => i.executeKeys
  | 0xF => i.executeMisc
  | _ => do throw (.unknownInstruction i.word (some (← get).pc))

end Instruction

end ChipEight
