import ChipEight.Proofs.Machine.Cycle
import Mathlib.Logic.Function.Iterate

/-!
# How far a machine can get

The program counter, the index and the timers are integers without a limit of
their own, and the call stack holds whatever was pushed. What keeps them small
is that every machine starts small and every cycle keeps it so, and this file is
that argument, over every call of a step, those that fail included.

The bound that carries it is the one on frames. A frame is the address of a call
that was fetched, so it is at most 4094, and a return therefore ends at 4096 at
most. The farthest jump is the one with an offset, to 0xFFF + 0xFF. Everything
else moves on by four at most from an address that could be fetched.

With these bounds none of the cuts to sixteen bits ever changes anything: the
next address is the one that the operation asked for, a return ends behind its
call, and running off the top of memory is a fault and not a way back to the
bottom.
-/

namespace ChipEight

/-- The operations after which a machine may go somewhere else than forward. -/
def Operation.jumps : Operation → Bool
  | jump _ | call _ | ret | jumpOffset _ => true
  | _ => false

namespace Machine

/-- The bounds that every call of a step keeps. -/
structure Bounded (m : Machine) : Prop where
  pc : 0 ≤ m.pc ∧ m.pc ≤ 0xFFF + 0xFF
  index : 0 ≤ m.index ∧ m.index ≤ 0xFFFF
  delay : 0 ≤ m.delay ∧ m.delay ≤ 255
  sound : 0 ≤ m.sound ∧ m.sound ≤ 255
  capacity : m.calls.capacity = 16
  frames : ∀ f ∈ m.calls.frames, f.toNat ≤ 4094

/-- What a device or an owner can read from the cells of a machine. -/
structure Cells (m : Machine) : Prop where
  registers : m.registers.toList.length = 16 ∧
    ∀ b ∈ m.registers.toList, 0 ≤ byteValue b ∧ byteValue b ≤ 255
  memory : m.memory.bytes.length = 4096 ∧
    ∀ b ∈ m.memory.bytes, 0 ≤ byteValue b ∧ byteValue b ≤ 255
  display : m.display.snapshot.length = 2048 ∧
    ∀ c ∈ m.display.snapshot, c = 0 ∨ c = 255

theorem byteValue_range (b : UInt8) : 0 ≤ byteValue b ∧ byteValue b ≤ 255 := by
  have := b.toNat_lt
  rw [byteValue]
  omega

/-- Cells are as wide as their types, whatever put the values there. -/
theorem cells (m : Machine) : m.Cells where
  registers := ⟨Vector.length_toList, fun b _ => byteValue_range b⟩
  memory := ⟨Vector.length_toList, fun b _ => byteValue_range b⟩
  display := by
    refine ⟨?_, ?_⟩
    · rw [Display.snapshot, List.length_map, Vector.length_toList]
    · intro c hc
      obtain ⟨on, -, rfl⟩ := List.mem_map.1 hc
      cases on
      · exact Or.inl rfl
      · exact Or.inr rfl

/-! ## One operation -/

theorem ticked_range {t : Int} (h : 0 ≤ t ∧ t ≤ 255) : 0 ≤ ticked t ∧ ticked t ≤ 255 := by
  rw [ticked]
  split <;> omega

theorem Bounded.depth_le {m : Machine} (h : m.Bounded) : m.calls.depth ≤ 16 := by
  rw [← h.capacity]
  exact m.calls.depth_le_capacity

theorem Bounded.newest {m : Machine} (h : m.Bounded) : m.calls.newest.toNat ≤ 4094 := by
  rw [CallStack.newest, List.getLastD_eq_getLast?]
  cases hl : m.calls.frames.getLast? with
  | none => exact Nat.zero_le _
  | some f => exact h.frames f (List.mem_of_getLast? hl)

/-- The address that comes next is small before it is cut. -/
theorem Bounded.target {m : Machine} (h : m.Bounded) {o : Operation}
    (ho : m.operation? = some o) : 0 ≤ o.target m ∧ o.target m ≤ 0xFFF + 0xFF := by
  obtain ⟨hpc, -, hc⟩ := operation?_eq_some_iff.1 ho
  have hr := hc.inRange
  cases o with
  | jump a | call a =>
      obtain ⟨h₀, h₁⟩ : IsAddress a := hr
      rw [Operation.target]
      omega
  | ret =>
      have := h.newest
      rw [Operation.target]
      omega
  | jumpOffset a =>
      obtain ⟨h₀, h₁⟩ : IsAddress a := hr
      have := byteValue_range (m.registers.named 0)
      rw [Operation.target]
      omega
  | skip c =>
      rw [Operation.target]
      split <;> omega
  | awaitKey x =>
      rw [Operation.target]
      split <;> omega
  | _ =>
      show 0 ≤ m.pc + 2 ∧ m.pc + 2 ≤ _
      omega

theorem Bounded.indexAfter {m : Machine} (h : m.Bounded) {o : Operation}
    (ho : o.InRange) : 0 ≤ o.indexAfter m ∧ o.indexAfter m ≤ 0xFFFF := by
  cases o with
  | loadIndex a =>
      obtain ⟨h₀, h₁⟩ : IsAddress a := ho
      rw [Operation.indexAfter]
      omega
  | addIndex x | loadRegisters x =>
      rw [Operation.indexAfter]
      omega
  | pointAtGlyph x =>
      have := byteValue_range (m.registers.named x)
      rw [Operation.indexAfter, Font.glyphAddress, Font.offset, Font.glyphSize]
      omega
  | _ => exact h.index

theorem Bounded.delayAfter {m : Machine} (h : m.Bounded) (o : Operation) :
    0 ≤ o.delayAfter m ∧ o.delayAfter m ≤ 255 := by
  cases o with
  | setDelay x => exact byteValue_range _
  | _ => exact h.delay

theorem Bounded.soundAfter {m : Machine} (h : m.Bounded) (o : Operation) :
    0 ≤ o.soundAfter m ∧ o.soundAfter m ≤ 255 := by
  cases o with
  | setSound x => exact byteValue_range _
  | _ => exact h.sound

theorem capacity_callsAfter (m : Machine) (o : Operation) :
    (o.callsAfter m).capacity = m.calls.capacity := by
  cases o with
  | call a => exact CallStack.capacity_pushed _ _
  | ret => exact CallStack.capacity_popped _
  | _ => rfl

theorem Bounded.framesAfter {m : Machine} (h : m.Bounded) {o : Operation}
    (ho : m.operation? = some o) (hf : o.fault? m = none) :
    ∀ f ∈ (o.callsAfter m).frames, f.toNat ≤ 4094 := by
  intro f hmem
  cases o with
  | call a =>
      obtain ⟨site, hframes, hsite⟩ := frames_callsAfter_call ho hf
      obtain ⟨hpc, -⟩ := operation?_eq_some_iff.1 ho
      rw [hframes, List.mem_append] at hmem
      rcases hmem with hold | hnew
      · exact h.frames f hold
      · obtain rfl := List.mem_singleton.1 hnew
        omega
  | ret =>
      rw [Operation.callsAfter, CallStack.frames_popped] at hmem
      exact h.frames f (List.dropLast_subset _ hmem)
  | _ => exact h.frames f hmem

/-! ## One call, and every call -/

theorem Bounded.completed {m : Machine} (h : m.Bounded) {o : Operation}
    (ho : m.operation? = some o) (hf : o.fault? m = none) : (m.completed o).Bounded := by
  rw [completed_eq]
  have htarget := h.target ho
  exact {
    pc := by
      show 0 ≤ o.target m % 65536 ∧ o.target m % 65536 ≤ _
      omega
    index := h.indexAfter (inRange_of_operation? ho)
    delay := ticked_range (h.delayAfter o)
    sound := ticked_range (h.soundAfter o)
    capacity := (capacity_callsAfter m o).trans h.capacity
    frames := h.framesAfter ho hf }

theorem Bounded.residue {m : Machine} (h : m.Bounded) (o : Operation) :
    (o.residue m.counted).Bounded := by
  rw [residue_eq]
  exact ⟨h.pc, h.index, h.delay, h.sound, h.capacity, h.frames⟩

theorem Bounded.attempt {m : Machine} (h : m.Bounded) : m.attempt.Bounded := by
  rcases m.attempt_cases with ⟨o, ho, hf, he⟩ | he | ⟨o, he⟩
  · rw [he]; exact h.completed ho hf
  · rw [he]; exact h
  · rw [he]; exact h.residue o

theorem Bounded.iterate_attempt {m : Machine} (h : m.Bounded) (n : Nat) :
    (Machine.attempt^[n] m).Bounded := by
  induction n with
  | zero => exact h
  | succ n ih => rw [Function.iterate_succ_apply']; exact ih.attempt

theorem exists_new {image : List UInt8} (h : image.length ≤ Image.maxSize)
    (keys : KeyInput) (random : Random.Source) (output : Output) (rate : Number) :
    ∃ m, Machine.new image keys random output rate = .ok m ∧ m.Bounded := by
  refine ⟨_, new_eq h keys random output rate, ?_⟩
  constructor <;> simp [Image.offset, CallStack.new, CallStack.capacity, CallStack.frames]

/-! ## Nothing is ever cut -/

/-- No cut to sixteen bits changes anything at the machine's next step. The end
of the cycle takes the address that the execution answered, that address is the
one the operation asked for, and a frame is the whole address of its call. So a
machine that does not jump moves up, and at the top of memory it stops. -/
structure Unwrapped (m : Machine) : Prop where
  answer : ∀ i m₁ a m₂, fetch m = .ok i m₁ →
    i.execute { m₁ with statistics := m₁.statistics.bump i.mnemonic } = .ok a m₂ →
    a % 65536 = a
  next : ∀ o m', m.operation? = some o → step m = .ok () m' → m'.pc = o.target m
  site : ∀ a m', m.operation? = some (.call a) → step m = .ok () m' →
    ∃ f : UInt16, m'.calls.frames = m.calls.frames ++ [f] ∧ (f.toNat : Int) = m.pc
  upward : ∀ o m', m.operation? = some o → o.jumps = false → step m = .ok () m' →
    m.pc ≤ m'.pc ∧ m'.pc ≤ m.pc + 4
  top : 4094 < m.pc → step m = .error (.outOfBounds m.pc) m

theorem target_of_not_jumps {m : Machine} {o : Operation} (h : o.jumps = false) :
    m.pc ≤ o.target m ∧ o.target m ≤ m.pc + 4 := by
  cases o with
  | jump a | call a | ret | jumpOffset a => cases h
  | skip c =>
      rw [Operation.target]
      split <;> omega
  | awaitKey x =>
      rw [Operation.target]
      split <;> omega
  | _ =>
      show m.pc ≤ m.pc + 2 ∧ m.pc + 2 ≤ m.pc + 4
      omega

theorem Bounded.pc_completed {m : Machine} (h : m.Bounded) {o : Operation}
    (ho : m.operation? = some o) : (m.completed o).pc = o.target m := by
  have := h.target ho
  rw [Machine.pc_completed]
  omega

/-- A return and an offset jump cut their own address, to no effect. -/
theorem answer_eq_target {m : Machine} {o : Operation}
    (h : 0 ≤ o.target m ∧ o.target m ≤ 0xFFF + 0xFF) : o.answer m = o.target m := by
  cases o with
  | ret | jumpOffset a => exact Int.emod_eq_of_lt h.1 (by omega)
  | _ => rfl

theorem Bounded.answer_emod {m : Machine} (h : m.Bounded) {i : Instruction}
    {a : Int} {m₁ m₂ : Machine} (hi : fetch m = .ok i m₁)
    (he : i.execute { m₁ with statistics := m₁.statistics.bump i.mnemonic } = .ok a m₂) :
    a % 65536 = a := by
  cases ho : m.operation? with
  | none =>
      rw [fetch_of_none ho] at hi
      cases hi
  | some o =>
      rw [fetch_of_some ho] at hi
      cases hi
      have hout : o.outcome m.counted = .ok a m₂ := by
        rw [← Operation.execute_eq (inRange_of_operation? ho), ← execute_of_operation? ho]
        exact he
      rw [Operation.outcome] at hout
      split at hout
      · cases hout
        have htarget := h.target ho
        have hanswer : o.answer m.counted = o.target m := answer_eq_target htarget
        rw [hanswer]
        omega
      · cases hout

theorem Bounded.unwrapped {m : Machine} (h : m.Bounded) : m.Unwrapped where
  answer i m₁ a m₂ hi he := h.answer_emod hi he
  next o m' ho hs := by
    obtain ⟨-, rfl⟩ := completed_of_step ho hs
    exact h.pc_completed ho
  site a m' ho hs := by
    obtain ⟨hf, rfl⟩ := completed_of_step ho hs
    rw [calls_completed]
    exact frames_callsAfter_call ho hf
  upward o m' ho hj hs := by
    obtain ⟨-, rfl⟩ := completed_of_step ho hs
    rw [h.pc_completed ho]
    exact target_of_not_jumps hj
  top := step_of_top

/-- However often a new machine is stepped, and whatever fails on the way, its
values stay in bounds and no cut ever changes one. -/
theorem bounds_forever {image : List UInt8} (h : image.length ≤ 3584) (keys : KeyInput)
    (random : Random.Source) (output : Output) (rate : Number) :
    ∃ m, Machine.new image keys random output rate = .ok m ∧
      ∀ n, (attempt^[n] m).Bounded ∧ (attempt^[n] m).Cells ∧
        (attempt^[n] m).calls.depth ≤ 16 ∧ (attempt^[n] m).Unwrapped := by
  obtain ⟨m, hm, hb⟩ := exists_new h keys random output rate
  refine ⟨m, hm, fun n => ?_⟩
  have hn := hb.iterate_attempt n
  exact ⟨hn, cells _, hn.depth_le, hn.unwrapped⟩

/-- A program that calls itself without end, and so overflows the stack. -/
theorem bounds_forever_self_call :
    ([0x22, 0x00] : List UInt8).length ≤ 3584 ∧
      ∃ m, Machine.new [0x22, 0x00] (.scripted [none]) (.rotating [7]) .discarding
          (.whole 0) = .ok m ∧
        ∀ n, (attempt^[n] m).Bounded ∧ (attempt^[n] m).Cells ∧
          (attempt^[n] m).calls.depth ≤ 16 ∧ (attempt^[n] m).Unwrapped :=
  ⟨by decide, bounds_forever (by decide) _ _ _ _⟩

end Machine

end ChipEight
