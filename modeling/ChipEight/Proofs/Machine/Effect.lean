import ChipEight.Proofs.Machine.Dispatch

/-!
# What an operation does, component by component

An operation is written as a sequence of actions. Here its meaning is taken
apart the other way: one function for each component of the machine, which says
what becomes of that component and nothing else, one for the address that comes
next, and one for the fault, if there is one. Most operations touch two or
three components, and the last line of each function is what the rest of them
do to it: nothing.

`execute_eq` puts the pieces together again. It holds of every machine, and
everything said later about steps is read off these functions. The only
operations that can fail are calls, returns, draws and the three that go
through memory byte by byte, and of those only the last three leave anything
behind when they do.
-/

namespace ChipEight

open Machine Exec

/-! ## The components -/

/-- Whether a condition holds. -/
def Condition.met (m : Machine) : Condition → Bool
  | equalsByte x v => byteValue (m.registers.named x) == v
  | differsFromByte x v => byteValue (m.registers.named x) != v
  | equalsRegister x y => m.registers.named x == m.registers.named y
  | differsFromRegister x y => m.registers.named x != m.registers.named y
  | keyHeld x => m.holdsNamed x
  | keyNotHeld x => !m.holdsNamed x

/-- The input device after a condition was looked at. -/
def Condition.keysAfter (m : Machine) : Condition → KeyInput
  | keyHeld _ => m.keys.poll.2
  | keyNotHeld _ => m.keys.poll.2
  | _ => m.keys

namespace Machine

/-- The rows of a sprite at the index. -/
def sprite (m : Machine) (n : Int) : List UInt8 := m.memory.block m.index n.toNat

/-- The display with the sprite drawn, and whether a cell was turned off. -/
def drawn (m : Machine) (x y n : Int) : Display × Bool :=
  m.display.drawSprite (byteValue (m.registers.named x)) (byteValue (m.registers.named y))
    (m.sprite n)

/-- A value's three decimal digits. -/
def digits (v : UInt8) : List Int :=
  [byteValue v / 100, byteValue v / 10 % 10, byteValue v % 10]

end Machine

namespace Operation

/-- The fault of an operation, if it has one. -/
def fault? (m : Machine) : Operation → Option Fault
  | call _ =>
      if m.calls.depth < m.calls.capacity then none
      else some (.callStackOverflow m.calls.capacity m.pc)
  | ret => if m.calls.depth = 0 then some .callStackUnderflow else none
  | draw _ _ n =>
      if Memory.Fits Image.memorySize m.index n then none
      else some (.outOfBounds m.index)
  | storeDigits _ => Memory.blockFault? Image.memorySize m.index 3
  | storeRegisters x => Memory.blockFault? Image.memorySize m.index (x + 1).toNat
  | loadRegisters x => Memory.blockFault? Image.memorySize m.index (x + 1).toNat
  | _ => none

/-- The address that comes next, before anything is cut to sixteen bits. -/
def target (m : Machine) : Operation → Int
  | jump a => a
  | call a => a
  | ret => (m.calls.newest.toNat : Int) + 2
  | jumpOffset a => a + byteValue (m.registers.named 0)
  | skip c => m.pc + (if c.met m then 4 else 2)
  | awaitKey _ => m.pc + (if m.keys.poll.1.isSome then 2 else 0)
  | _ => m.pc + 2

/-- The address that an operation answers: a return and an offset jump cut it. -/
def answer (m : Machine) (o : Operation) : Int :=
  match o with
  | ret => o.target m % 65536
  | jumpOffset _ => o.target m % 65536
  | _ => o.target m

/-- What becomes of the memory, also where the operation fails midway. -/
def memoryAfter (m : Machine) : Operation → Memory Image.memorySize
  | storeDigits x =>
      m.memory.fill m.index ((digits (m.registers.named x)).map lowByte)
  | storeRegisters x => m.memory.fill m.index (m.registers.span 0 (x + 1).toNat)
  | _ => m.memory

/-- What becomes of the registers, also where a block load fails midway. -/
def registersAfter (m : Machine) : Operation → Registers
  | loadByte x v => m.registers.set (Registers.place x) (lowByte v)
  | addByte x v =>
      m.registers.set (Registers.place x) (lowByte (byteValue (m.registers.named x) + v))
  | arithmetic f x y =>
      withResult m.registers x (f.result (m.registers.named x) (m.registers.named y))
        (f.flag? (m.registers.named x) (m.registers.named y))
  | random x mask =>
      m.registers.set (Registers.place x) (m.random.draw.1 &&& lowByte mask)
  | draw x y n =>
      m.registers.set (Registers.place Registers.flag)
        (lowByte (if (m.drawn x y n).2 then 255 else 0))
  | readDelay x => m.registers.set (Registers.place x) (lowByte m.delay)
  | awaitKey x =>
      match m.keys.poll.1 with
      | none => m.registers
      | some key => m.registers.set (Registers.place x) (lowByte key)
  | loadRegisters x =>
      m.registers.setAll 0 (m.memory.block m.index (x + 1).toNat)
  | _ => m.registers

/-- What becomes of the call stack. -/
def callsAfter (m : Machine) : Operation → CallStack
  | call _ => m.calls.pushed m.pc
  | ret => m.calls.popped
  | _ => m.calls

/-- What becomes of the display. -/
def displayAfter (m : Machine) : Operation → Display
  | clearScreen => .blank
  | draw x y n => (m.drawn x y n).1
  | _ => m.display

/-- What becomes of the index. -/
def indexAfter (m : Machine) : Operation → Int
  | loadIndex a => a
  | addIndex x => (m.index + byteValue (m.registers.named x)) % 65536
  | pointAtGlyph x => Font.glyphAddress (byteValue (m.registers.named x))
  | loadRegisters x => (m.index + x + 1) % 65536
  | _ => m.index

/-- What becomes of the delay timer. -/
def delayAfter (m : Machine) : Operation → Int
  | setDelay x => byteValue (m.registers.named x)
  | _ => m.delay

/-- What becomes of the sound timer. -/
def soundAfter (m : Machine) : Operation → Int
  | setSound x => byteValue (m.registers.named x)
  | _ => m.sound

/-- What becomes of the input device. -/
def keysAfter (m : Machine) : Operation → KeyInput
  | skip c => c.keysAfter m
  | awaitKey _ => m.keys.poll.2
  | _ => m.keys

/-- What becomes of the random source. -/
def randomAfter (m : Machine) : Operation → Random.Source
  | random _ _ => m.random.draw.2
  | _ => m.random

/-- Hands the display to the output device, after the operations that do. -/
def shown : Operation → Machine → Machine
  | clearScreen, m => m.present
  | draw _ _ _, m => m.present
  | _, m => m

/-- The machine after an operation that succeeds. -/
def effect (m : Machine) (o : Operation) : Machine :=
  o.shown { m with
    memory := o.memoryAfter m
    registers := o.registersAfter m
    calls := o.callsAfter m
    display := o.displayAfter m
    index := o.indexAfter m
    delay := o.delayAfter m
    sound := o.soundAfter m
    keys := o.keysAfter m
    random := o.randomAfter m }

/-- The machine after an operation that fails. -/
def residue (m : Machine) (o : Operation) : Machine :=
  match o with
  | storeDigits _ => { m with memory := o.memoryAfter m }
  | storeRegisters _ => { m with memory := o.memoryAfter m }
  | loadRegisters _ => { m with registers := o.registersAfter m }
  | _ => m

/-- What an operation comes to. -/
def outcome (m : Machine) (o : Operation) : EStateM.Result Fault Machine Int :=
  match o.fault? m with
  | none => .ok (o.answer m) (o.effect m)
  | some f => .error f (o.residue m)

theorem outcome_of_none {m : Machine} {o : Operation} (h : o.fault? m = none) :
    o.outcome m = .ok (o.answer m) (o.effect m) := by
  rw [outcome, h]

theorem outcome_of_some {m : Machine} {o : Operation} {f : Fault}
    (h : o.fault? m = some f) : o.outcome m = .error f (o.residue m) := by
  rw [outcome, h]

end Operation

/-! ## The operations meet it -/

theorem Condition.holds_eq {c : Condition} (hc : c.InRange) (m : Machine) :
    c.holds m = .ok (c.met m) { m with keys := c.keysAfter m } := by
  cases c with
  | equalsByte x v | differsFromByte x v =>
      rw [Condition.holds, bind_of_ok (readRegister_of_nibble hc.1 m)]
      rfl
  | equalsRegister x y | differsFromRegister x y =>
      rw [Condition.holds, bind_of_ok (readRegister_of_nibble hc.1 m),
        bind_of_ok (readRegister_of_nibble hc.2 m)]
      rfl
  | keyHeld x => exact keyMatches_of_nibble hc m
  | keyNotHeld x =>
      rw [Condition.holds, bind_of_ok (keyMatches_of_nibble hc m)]
      rfl

namespace Operation

theorem execute_call (a : Int) (m : Machine) :
    (call a).execute m = (call a).outcome m := by
  rw [execute, get_bind]
  by_cases h : m.calls.depth < m.calls.capacity
  · have hf : (call a).fault? m = none := if_pos h
    rw [bind_of_ok (pushCall_of_lt h m.pc), outcome_of_none hf]
    rfl
  · have hf : (call a).fault? m = some (.callStackOverflow m.calls.capacity m.pc) :=
      if_neg h
    rw [bind_of_error (pushCall_of_not_lt h m.pc), outcome_of_some hf]
    rfl

theorem execute_ret (m : Machine) : ret.execute m = ret.outcome m := by
  rw [execute]
  by_cases h : m.calls.depth = 0
  · have hf : ret.fault? m = some .callStackUnderflow := if_pos h
    rw [bind_of_error (popCall_of_eq h), outcome_of_some hf]
    rfl
  · have hf : ret.fault? m = none := if_neg h
    rw [bind_of_ok (popCall_of_ne h), outcome_of_none hf]
    rfl

theorem execute_draw {x y n : Int} (hx : IsNibble x) (hy : IsNibble y) (hn : IsNibble n)
    (m : Machine) : (draw x y n).execute m = (draw x y n).outcome m := by
  rw [execute]
  by_cases h : Memory.Fits Image.memorySize m.index n
  · have hf : (draw x y n).fault? m = none := if_pos h
    have hrows : inspect (fun m => m.memory.readBlock m.index n) m =
        .ok (m.sprite n) m := by
      rw [inspect, Memory.readBlock_eq hn.1, if_pos h]
      rfl
    rw [bind_of_ok hrows, bind_of_ok (readRegister_of_nibble hx m),
      bind_of_ok (readRegister_of_nibble hy m), get_bind, outcome_of_none hf]
    simp only []
    rw [modify_bind, bind_of_ok (writeRegister_of_nibble isNibble_flag _ _)]
    rfl
  · have hf : (draw x y n).fault? m = some (.outOfBounds m.index) := if_neg h
    have hrows : inspect (fun m => m.memory.readBlock m.index n) m =
        .error (.outOfBounds m.index) m := by
      rw [inspect, Memory.readBlock_eq hn.1, if_neg h]
    rw [bind_of_error hrows, outcome_of_some hf]
    rfl

theorem execute_awaitKey {x : Int} (hx : IsNibble x) (m : Machine) :
    (awaitKey x).execute m = (awaitKey x).outcome m := by
  rw [execute, bind_of_ok (pollKey_apply m), outcome_of_none rfl]
  cases hk : m.keys.poll.1 with
  | none =>
      simp only [answer, target, effect, shown, registersAfter, hk]
      rfl
  | some key =>
      simp only [answer, target, effect, shown, registersAfter, hk]
      rw [bind_of_ok (writeRegister_of_nibble hx key _)]
      rfl

/-- A loop through memory, and what follows it when it reached its end. -/
theorem loop_then {m m' : Machine} {o : Operation} {loop : Exec Unit}
    {rest : Unit → Exec Int} (hl : loop m = result (o.fault? m) () m')
    (hk : rest () m' = .ok (o.answer m) (o.effect m)) (hr : o.residue m = m') :
    (loop >>= rest) m = o.outcome m := by
  cases hf : o.fault? m with
  | none =>
      rw [hf] at hl
      rw [bind_of_ok hl, outcome_of_none hf, hk]
  | some f =>
      rw [hf] at hl
      rw [bind_of_error hl, outcome_of_some hf, hr]

theorem execute_storeDigits {x : Int} (hx : IsNibble x) (m : Machine) :
    (storeDigits x).execute m = (storeDigits x).outcome m := by
  have hl := storeAll_apply m.index (digits (m.registers.named x)) m
  have hw : (storeAll m.index (digits (m.registers.named x)) >>= fun _ => ahead 2) m =
      (storeDigits x).outcome m := loop_then hl rfl rfl
  rw [← hw, execute, bind_of_ok (readRegister_of_nibble hx m), get_bind]
  simp only [digits, storeAll, bind_assoc, pure_bind, Int.add_assoc]
  rfl

theorem succ_toNat_le {x : Int} (hx : IsNibble x) : 0 + (x + 1).toNat ≤ 16 := by
  have := hx.2
  omega

theorem execute_storeRegisters {x : Int} (hx : IsNibble x) (m : Machine) :
    (storeRegisters x).execute m = (storeRegisters x).outcome m := by
  have hl := storeFrom_apply m.index (succ_toNat_le hx) m
  rw [Int.natCast_zero, Int.add_zero] at hl
  rw [execute, get_bind]
  exact loop_then hl rfl rfl

theorem execute_loadRegisters {x : Int} (hx : IsNibble x) (m : Machine) :
    (loadRegisters x).execute m = (loadRegisters x).outcome m := by
  have hl := loadFrom_apply m.index (succ_toNat_le hx) m
  rw [Int.natCast_zero, Int.add_zero] at hl
  rw [execute, get_bind]
  exact loop_then hl rfl rfl

/-- Every operation with operands of their width does what its components say. -/
theorem execute_eq {o : Operation} (ho : o.InRange) (m : Machine) :
    o.execute m = o.outcome m := by
  cases o with
  | clearScreen | jump a | loadIndex a => rfl
  | ret => exact execute_ret m
  | call a => exact execute_call a m
  | skip c =>
      rw [execute, bind_of_ok (Condition.holds_eq ho m)]
      rfl
  | loadByte x v =>
      rw [execute, bind_of_ok (writeRegister_of_nibble ho.1 v m)]
      rfl
  | addByte x v =>
      rw [execute, bind_of_ok (readRegister_of_nibble ho.1 m),
        bind_of_ok (writeRegister_of_nibble ho.1 _ m)]
      rfl
  | arithmetic f x y =>
      rw [execute, bind_of_ok (readRegister_of_nibble ho.1 m),
        bind_of_ok (readRegister_of_nibble ho.2 m),
        bind_of_ok (writeResult_of_nibble ho.1 _ _ m)]
      rfl
  | jumpOffset a =>
      rw [execute, bind_of_ok (readRegister_of_nibble isNibble_zero m)]
      rfl
  | random x mask =>
      rw [execute, bind_of_ok (drawByte_apply m),
        bind_of_ok (writeRegister_of_nibble ho.1 _ _), lowByte_byteValue]
      rfl
  | draw x y n => exact execute_draw ho.1 ho.2.1 ho.2.2 m
  | readDelay x =>
      rw [execute, get_bind, bind_of_ok (writeRegister_of_nibble ho _ m)]
      rfl
  | awaitKey x => exact execute_awaitKey ho m
  | setDelay x | setSound x | addIndex x | pointAtGlyph x =>
      rw [execute, bind_of_ok (readRegister_of_nibble ho m), modify_bind]
      rfl
  | storeDigits x => exact execute_storeDigits ho m
  | storeRegisters x => exact execute_storeRegisters ho m
  | loadRegisters x => exact execute_loadRegisters ho m

end Operation

/-- A word of an operation's pattern does what the operation's components say. -/
theorem Instruction.execute_ofWord {w : Nat} (hw : w < 65536) {o : Operation}
    (hp : o.pattern.Matches w) (hc : o.CarriedBy w) (m : Machine) :
    (Instruction.ofWord w).execute m = o.outcome m := by
  rw [Instruction.execute_of_some (Instruction.operation?_of_matches hw hp hc)]
  exact Operation.execute_eq hc.inRange m

theorem Instruction.execute_of_encodedBy {w : Nat} {o : Operation} (h : o.EncodedBy w)
    (m : Machine) : (Instruction.ofWord w).execute m = o.outcome m :=
  Instruction.execute_ofWord h.lt h.pattern h.operands m

end ChipEight
