import ChipEight.Machine.Execute
import ChipEight.Proofs.CallStack
import ChipEight.Proofs.Instruction.Pattern
import ChipEight.Proofs.Memory
import ChipEight.Proofs.Registers

/-!
# What the actions do

The operations are written in actions that touch one component each, and this
file says of every action what it answers and what it leaves. An operand that
comes from a word is a nibble, so the register actions cannot fail here; the
ones on memory and on the call stack can, and their failures are the only ones
an operation has.

The two block loops get the same treatment. Both walk upwards and stop at the
first address outside, so both come down to one pair: the fault of the block,
and the part of the block that was reached.
-/

namespace ChipEight

namespace Exec

variable {α β : Type} {x : Exec α} {f : α → Exec β} {m m' : Machine}

theorem bind_of_ok {a : α} (h : x m = .ok a m') : (x >>= f) m = f a m' := by
  simp only [bind, EStateM.bind, h]

theorem bind_of_error {e : Fault} (h : x m = .error e m') :
    (x >>= f) m = .error e m' := by
  simp only [bind, EStateM.bind, h]

theorem get_bind {g : Machine → Exec β} : (get >>= g) m = g m m := rfl

theorem modify_bind {g : Machine → Machine} {k : PUnit → Exec β} :
    ((modify g : Exec PUnit) >>= k) m = k ⟨⟩ (g m) := rfl

end Exec

namespace Machine

open Exec

/-! ## Registers, devices, the next address -/

theorem readRegister_of_nibble {x : Int} (hx : IsNibble x) (m : Machine) :
    readRegister x m = .ok (m.registers.named x) m := by
  rw [readRegister, inspect, Registers.read_of_nibble hx]

theorem writeRegister_of_nibble {x : Int} (hx : IsNibble x) (v : Int) (m : Machine) :
    writeRegister x v m =
      .ok () { m with registers := m.registers.set (Registers.place x) (lowByte v) } := by
  rw [writeRegister, Registers.write_of_nibble hx]

theorem isNibble_flag : IsNibble Registers.flag := by
  rw [IsNibble, Registers.flag]
  omega

theorem isNibble_zero : IsNibble 0 := by
  rw [IsNibble]
  omega

theorem pollKey_apply (m : Machine) :
    pollKey m = .ok m.keys.poll.1 { m with keys := m.keys.poll.2 } := rfl

theorem drawByte_apply (m : Machine) :
    drawByte m = .ok m.random.draw.1 { m with random := m.random.draw.2 } := rfl

/-- Whether the held key is the one that a register names. -/
def holdsNamed (m : Machine) (x : Int) : Bool :=
  match m.keys.poll.1 with
  | none => false
  | some key => key == byteValue (m.registers.named x)

theorem keyMatches_of_nibble {x : Int} (hx : IsNibble x) (m : Machine) :
    keyMatches x m = .ok (m.holdsNamed x) { m with keys := m.keys.poll.2 } := by
  rw [keyMatches, bind_of_ok (pollKey_apply m), holdsNamed]
  cases m.keys.poll.1 with
  | none => rfl
  | some key =>
      simp only []
      rw [bind_of_ok (readRegister_of_nibble hx _)]
      rfl

/-- The bank after a result and the flag that goes with it. -/
def withResult (r : Registers) (x : Int) (result : UInt8) : Option UInt8 → Registers
  | some flag =>
      (r.set (Registers.place Registers.flag) flag).set (Registers.place x) result
  | none => r.set (Registers.place x) result

theorem writeResult_of_nibble {x : Int} (hx : IsNibble x) (result : UInt8)
    (flag : Option UInt8) (m : Machine) :
    writeResult x result flag m =
      .ok () { m with registers := withResult m.registers x result flag } := by
  unfold writeResult
  cases flag with
  | none =>
      show writeRegister x (byteValue result) m = _
      rw [writeRegister_of_nibble hx, lowByte_byteValue]
      rfl
  | some b =>
      simp only []
      rw [bind_of_ok (writeRegister_of_nibble isNibble_flag _ m),
        writeRegister_of_nibble hx, lowByte_byteValue, lowByte_byteValue]
      rfl

/-! ## The call stack -/

theorem pushCall_of_lt {m : Machine} (h : m.calls.depth < m.calls.capacity) (site : Int) :
    pushCall site m = .ok () { m with calls := m.calls.pushed site } := by
  rw [pushCall, CallStack.push_eq, if_pos h]

theorem pushCall_of_not_lt {m : Machine} (h : ¬ m.calls.depth < m.calls.capacity)
    (site : Int) :
    pushCall site m = .error (.callStackOverflow m.calls.capacity site) m := by
  rw [pushCall, CallStack.push_eq, if_neg h]

theorem popCall_of_ne {m : Machine} (h : m.calls.depth ≠ 0) :
    popCall m = .ok m.calls.newest { m with calls := m.calls.popped } := by
  rw [popCall, CallStack.pop_eq, if_neg h]

theorem popCall_of_eq {m : Machine} (h : m.calls.depth = 0) :
    popCall m = .error .callStackUnderflow m := by
  rw [popCall, CallStack.pop_eq, if_pos h]

/-! ## Memory, byte by byte -/

theorem store_of_fits {a : Int} (h : Memory.Fits Image.memorySize a 1) (v : Int)
    (m : Machine) :
    store a v m = .ok () { m with memory := m.memory.set a.toNat (lowByte v) } := by
  rw [store, Memory.write8, Memory.guarded_of_fits h]

theorem store_of_not_fits {a : Int} (h : ¬ Memory.Fits Image.memorySize a 1) (v : Int)
    (m : Machine) : store a v m = .error (.outOfBounds a) m := by
  rw [store, Memory.write8, Memory.guarded_of_not_fits h]

theorem load_of_fits {a : Int} (h : Memory.Fits Image.memorySize a 1) (m : Machine) :
    load a m = .ok (m.memory.get a.toNat) m := by
  rw [load, inspect, Memory.read8, Memory.guarded_of_fits h]

theorem load_of_not_fits {a : Int} (h : ¬ Memory.Fits Image.memorySize a 1)
    (m : Machine) : load a m = .error (.outOfBounds a) m := by
  rw [load, inspect, Memory.read8, Memory.guarded_of_not_fits h]

/-- An answer together with the machine it leaves, unless there was a fault. -/
def result {α : Type} (fault? : Option Fault) (a : α) (m : Machine) :
    EStateM.Result Fault Machine α :=
  match fault? with
  | none => .ok a m
  | some f => .error f m

/-- Stores values from an address upwards. -/
def storeAll (a : Int) : List Int → Exec Unit
  | [] => pure ()
  | v :: vs => do
      store a v
      storeAll (a + 1) vs

theorem storeAll_apply (a : Int) (vs : List Int) (m : Machine) :
    storeAll a vs m =
      result (Memory.blockFault? Image.memorySize a vs.length) ()
        { m with memory := m.memory.fill a (vs.map lowByte) } := by
  induction vs generalizing a m with
  | nil =>
      rw [storeAll, List.length_nil, Memory.blockFault?_zero, List.map_nil,
        Memory.fill_nil]
      rfl
  | cons v vs ih =>
      rw [storeAll, List.length_cons, List.map_cons]
      by_cases h : Memory.Fits Image.memorySize a 1
      · rw [bind_of_ok (store_of_fits h v m), ih, Memory.blockFault?_succ h,
          Memory.fill_cons h]
      · rw [bind_of_error (store_of_not_fits h v m),
          Memory.blockFault?_succ_of_not_fits h, Memory.fill_of_not_fits h]
        rfl

/-- Storing a row of registers is storing the values they hold: no store changes
a register that is still to come. -/
theorem storeFrom_eq_storeAll (base : Int) {i count : Nat} (h : i + count ≤ 16)
    (m : Machine) :
    storeFrom base i count m =
      storeAll (base + i) ((m.registers.span i count).map byteValue) m := by
  induction count generalizing i m with
  | zero => rfl
  | succ count ih =>
      have hi : IsNibble (i : Int) := ⟨by omega, by omega⟩
      rw [storeFrom, bind_of_ok (readRegister_of_nibble hi m), Registers.span_succ,
        List.map_cons, storeAll]
      by_cases hf : Memory.Fits Image.memorySize (base + i) 1
      · rw [bind_of_ok (store_of_fits hf _ m), bind_of_ok (store_of_fits hf _ m)]
        rw [Int.add_assoc]
        exact ih (i := i + 1) (by omega) _
      · rw [bind_of_error (store_of_not_fits hf _ m),
          bind_of_error (store_of_not_fits hf _ m)]

theorem storeFrom_apply (base : Int) {i count : Nat} (h : i + count ≤ 16) (m : Machine) :
    storeFrom base i count m =
      result (Memory.blockFault? Image.memorySize (base + i) count) ()
        { m with memory := m.memory.fill (base + i) (m.registers.span i count) } := by
  rw [storeFrom_eq_storeAll base h, storeAll_apply, List.length_map,
    Memory.map_lowByte_byteValue, Registers.length_span]

theorem loadFrom_apply (base : Int) {i count : Nat} (h : i + count ≤ 16) (m : Machine) :
    loadFrom base i count m =
      result (Memory.blockFault? Image.memorySize (base + i) count) ()
        { m with
          registers := m.registers.setAll i (m.memory.block (base + i) count) } := by
  induction count generalizing i m with
  | zero =>
      rw [loadFrom, Memory.blockFault?_zero, Memory.block_zero]
      rfl
  | succ count ih =>
      have hi : IsNibble (i : Int) := ⟨by omega, by omega⟩
      rw [loadFrom]
      by_cases hf : Memory.Fits Image.memorySize (base + i) 1
      · rw [bind_of_ok (load_of_fits hf m), bind_of_ok (writeRegister_of_nibble hi _ m),
          Memory.blockFault?_succ hf, Memory.block_succ hf, lowByte_byteValue]
        rw [Int.add_assoc]
        exact ih (i := i + 1) (by omega) _
      · rw [bind_of_error (load_of_not_fits hf m),
          Memory.blockFault?_succ_of_not_fits hf, Memory.block_of_not_fits hf]
        rfl

end Machine

end ChipEight
