import ChipEight.Proofs.Machine.Footprint
import Mathlib.Logic.Function.Iterate

/-!
# A byte that is never read

Memory is read in three places: two bytes where an instruction is fetched, the rows
of a sprite, and the row of bytes that a load brings into the registers. Stores read
nothing. So a byte that none of the three touches has no influence, and two machines
that differ in it alone go on to differ in it alone, whatever they execute and
wherever they fail, until one of them stores there. Then both of them do, and they
store the same, because what is stored comes from registers and where it goes to from
the index.

`Reads` is by what a step really looks at: a word or a sprite that leaves the memory
is refused before any byte of it is looked at. `Writes` has the same precision, and
counts the part of a block that a failing step has stored.
-/

namespace ChipEight

namespace Memory

variable {size : Nat} {m m' : Memory size} {c : Nat}

theorem block_congr {a : Int} {count : Nat}
    (h : ∀ b : Nat, a ≤ b → b < a + count → m'.get b = m.get b) :
    m'.block a count = m.block a count := by
  rw [block, block]
  split
  · refine List.map_congr_left fun b hb => h b ?_ ?_ <;>
      rw [List.mem_range'_1] at hb <;> omega
  · rfl

/-- A block that is stored in both is no new difference. -/
theorem get_fill_congr (h : ∀ b, b ≠ c → m'.get b = m.get b) (a : Int)
    (bs : List UInt8) : ∀ b, b ≠ c → (m'.fill a bs).get b = (m.fill a bs).get b := by
  intro b hb
  by_cases ha : 0 ≤ a
  · rw [get_fill ha, get_fill ha, h b hb]
  · rw [fill, fill, if_neg ha, if_neg ha, h b hb]

/-- A block that is stored over the difference ends it. -/
theorem fill_eq_of_inside (h : ∀ b, b ≠ c → m'.get b = m.get b) {a : Int} (ha : 0 ≤ a)
    {bs : List UInt8} (hc : a ≤ c ∧ c < a + bs.length) : m'.fill a bs = m.fill a bs := by
  apply ext_get
  intro b hb
  rw [get_fill ha, get_fill ha]
  split
  · rfl
  · exact h b (by omega)

/-- What a block store changed lies in its block and in the memory. -/
theorem stored_of_get_fill_ne {a : Int} {bs : List UInt8}
    (h : (m.fill a bs).get c ≠ m.get c) : 0 ≤ a ∧ c < size ∧ a ≤ c ∧ c < a + bs.length := by
  by_cases ha : 0 ≤ a
  · rw [get_fill ha] at h
    split at h
    · next hin => omega
    · exact absurd rfl h
  · rw [fill, if_neg ha] at h
    exact absurd rfl h

end Memory

namespace Machine

/-- Two machines that differ in the byte at one address at most. -/
def AgreeOff (a : Nat) (m m' : Machine) : Prop :=
  ∃ mem, m' = { m with memory := mem } ∧ ∀ b, b ≠ a → mem.get b = m.memory.get b

/-- The next step looks at the byte at an address: it is one of the two of the word, it
is in the sprite that the word draws, or in the row of registers that it loads. -/
inductive Reads (m : Machine) (a : Nat) : Prop where
  | word (hpc : Memory.Fits Image.memorySize m.pc 2)
      (ha : (a : Int) = m.pc ∨ (a : Int) = m.pc + 1)
  | sprite (hpc : Memory.Fits Image.memorySize m.pc 2)
      (hw : (Pattern.family 0xD).Matches m.word)
      (hfits : Memory.Fits Image.memorySize m.index (m.word % 16 : Nat))
      (ha : m.index ≤ a ∧ a < m.index + (m.word % 16 : Nat))
  | row (hpc : Memory.Fits Image.memorySize m.pc 2)
      (hw : (Pattern.byte 0xF 0x65).Matches m.word)
      (ha : m.index ≤ a ∧ a ≤ m.index + (m.word / 256 % 16 : Nat))

/-- The next step stores a byte at an address, whether it then succeeds or not. -/
structure Writes (m : Machine) (a : Nat) : Prop where
  fetched : Memory.Fits Image.memorySize m.pc 2
  inside : 0 ≤ m.index ∧ a < Image.memorySize
  stores : m.StoresAt a

/-! ## What is found -/

section

variable {m : Machine} {a : Nat} {mem : Memory Image.memorySize}
  (h : ∀ b, b ≠ a → mem.get b = m.memory.get b) (hr : ¬ m.Reads a)

include h hr

theorem word_of_not_reads (hpc : Memory.Fits Image.memorySize m.pc 2) :
    word { m with memory := mem } = m.word := by
  have hne : ∀ b : Nat, (b : Int) = m.pc ∨ (b : Int) = m.pc + 1 → b ≠ a := by
    rintro b hb rfl
    exact hr (.word hpc hb)
  have hpc₀ := hpc.1
  show mem.wordAt m.pc.toNat = m.memory.wordAt m.pc.toNat
  rw [Memory.wordAt, Memory.wordAt, h _ (hne _ (by omega)), h _ (hne _ (by omega))]

theorem operation?_of_not_reads :
    operation? { m with memory := mem } = m.operation? := by
  rw [operation?, operation?]
  split
  · next hpc => rw [instruction, instruction, word_of_not_reads h hr hpc]
  · rfl

theorem fetchFault_of_not_reads :
    fetchFault { m with memory := mem } = m.fetchFault := by
  rw [fetchFault, fetchFault]
  split
  · next hpc => rw [word_of_not_reads h hr hpc]
  · rfl

theorem drawn_of_not_reads {x y n : Int} (ho : m.operation? = some (.draw x y n))
    (hf : (Operation.draw x y n).fault? m = none) :
    drawn { m.counted with memory := mem } x y n = m.counted.drawn x y n := by
  obtain ⟨hpc, hm, -, -, rfl⟩ := operation?_eq_some_iff.1 ho
  have hfits : Memory.Fits Image.memorySize m.index (m.word % 16 : Nat) := by
    refine Decidable.byContradiction fun hout => ?_
    rw [Operation.fault?, if_neg hout] at hf
    cases hf
  have hrows : mem.block m.index (m.word % 16) = m.memory.block m.index (m.word % 16) := by
    refine Memory.block_congr fun b hlow hhigh => h b ?_
    rintro rfl
    exact hr (.sprite (fits_pc_iff.2 hpc) hm hfits ⟨hlow, hhigh⟩)
  have hsprite : sprite { m.counted with memory := mem } (m.word % 16 : Nat) =
      m.counted.sprite (m.word % 16 : Nat) := by
    rw [sprite, sprite, Int.toNat_natCast]
    exact hrows
  rw [drawn, drawn, hsprite]

theorem loaded_of_not_reads {x : Int} (ho : m.operation? = some (.loadRegisters x)) :
    (Operation.loadRegisters x).registersAfter { m.counted with memory := mem } =
      (Operation.loadRegisters x).registersAfter m.counted := by
  obtain ⟨hpc, hm, rfl⟩ := operation?_eq_some_iff.1 ho
  have hrow : mem.block m.index ((m.word / 256 % 16 : Nat) + 1 : Int).toNat =
      m.memory.block m.index ((m.word / 256 % 16 : Nat) + 1 : Int).toNat := by
    refine Memory.block_congr fun b hlow hhigh => h b ?_
    rintro rfl
    exact hr (.row (fits_pc_iff.2 hpc) hm ⟨hlow, by omega⟩)
  show m.registers.setAll 0 (mem.block m.index _) = m.registers.setAll 0 _
  rw [hrow]
  rfl

theorem counted_of_not_reads (hpc : Memory.Fits Image.memorySize m.pc 2) :
    counted { m with memory := mem } = { m.counted with memory := mem } := by
  rw [counted, counted, instruction, instruction, word_of_not_reads h hr hpc]
  rfl

theorem effect_of_not_reads {o : Operation} (ho : m.operation? = some o)
    (hf : o.fault? m = none) :
    o.effect { m.counted with memory := mem } =
      { o.effect m.counted with memory := o.memoryAfter { m with memory := mem } } := by
  cases o with
  | draw x y n =>
      rw [Operation.effect, Operation.displayAfter, Operation.registersAfter,
        drawn_of_not_reads h hr ho hf]
      rfl
  | loadRegisters x =>
      rw [Operation.effect, loaded_of_not_reads h hr ho]
      rfl
  | _ => rfl

theorem completed_of_not_reads {o : Operation} (ho : m.operation? = some o)
    (hf : o.fault? m = none) :
    completed { m with memory := mem } o =
      { m.completed o with memory := o.memoryAfter { m with memory := mem } } := by
  have hpc := fits_pc_iff.2 (operation?_eq_some_iff.1 ho).1
  have hanswer : o.answer { m with memory := mem } = o.answer m := by cases o <;> rfl
  rw [completed, completed, counted_of_not_reads h hr hpc, hanswer,
    effect_of_not_reads h hr ho hf, instruction, instruction, word_of_not_reads h hr hpc,
    advance, advance, tick_eq, tick_eq]

theorem residue_of_not_reads {o : Operation} (ho : m.operation? = some o) :
    o.residue (counted { m with memory := mem }) =
      { o.residue m.counted with memory := o.memoryAfter { m with memory := mem } } := by
  have hpc := fits_pc_iff.2 (operation?_eq_some_iff.1 ho).1
  rw [counted_of_not_reads h hr hpc]
  cases o with
  | loadRegisters x =>
      rw [Operation.residue, loaded_of_not_reads h hr ho]
      rfl
  | _ => rfl

theorem writes_of_not_reads : Writes { m with memory := mem } a ↔ m.Writes a := by
  constructor
  · rintro ⟨hpc, hin, hs⟩
    refine ⟨hpc, hin, ?_⟩
    cases hs with
    | digits hw ha => exact .digits (by rwa [word_of_not_reads h hr hpc] at hw) ha
    | row hw ha =>
        rw [word_of_not_reads h hr hpc] at hw ha
        exact .row hw ha
  · rintro ⟨hpc, hin, hs⟩
    refine ⟨hpc, hin, ?_⟩
    cases hs with
    | digits hw ha => exact .digits (by rwa [word_of_not_reads h hr hpc]) ha
    | row hw ha =>
        refine .row ?_ ?_ <;> rwa [word_of_not_reads h hr hpc]

end

/-! ## What is stored -/

theorem get_memoryAfter_congr {m : Machine} {a : Nat} {mem : Memory Image.memorySize}
    (h : ∀ b, b ≠ a → mem.get b = m.memory.get b) (o : Operation) :
    ∀ b, b ≠ a →
      (o.memoryAfter { m with memory := mem }).get b = (o.memoryAfter m).get b := by
  cases o with
  | storeDigits x | storeRegisters x => exact Memory.get_fill_congr h _ _
  | _ => exact h

/-- Where a step writes, it leaves the same memory whatever was there. -/
theorem memoryAfter_of_writes {m : Machine} {a : Nat} {mem : Memory Image.memorySize}
    (h : ∀ b, b ≠ a → mem.get b = m.memory.get b) (hw : m.Writes a) {o : Operation}
    (ho : m.operation? = some o) :
    o.memoryAfter { m with memory := mem } = o.memoryAfter m := by
  obtain ⟨-, ⟨hi, -⟩, hs⟩ := hw
  cases hs with
  | digits hword ha =>
      obtain rfl := eq_of_matches ho (.storeDigits (m.word / 256 % 16 : Nat)) hword rfl
      refine Memory.fill_eq_of_inside h hi ⟨ha.1, ?_⟩
      show (a : Int) < m.index + (3 : Nat)
      omega
  | row hword ha =>
      obtain rfl := eq_of_matches ho (.storeRegisters (m.word / 256 % 16 : Nat)) hword rfl
      refine Memory.fill_eq_of_inside h hi ⟨ha.1, ?_⟩
      rw [Registers.length_span]
      omega

theorem exists_operation_of_writes {m : Machine} {a : Nat} (hw : m.Writes a) :
    ∃ o, m.operation? = some o := by
  obtain ⟨hpc, -, hs⟩ := hw
  cases hs with
  | digits hword ha =>
      exact ⟨.storeDigits _, operation?_of_matches (fits_pc_iff.1 hpc) hword rfl⟩
  | row hword ha =>
      exact ⟨.storeRegisters _, operation?_of_matches (fits_pc_iff.1 hpc) hword rfl⟩

theorem memory_residue_eq (m : Machine) (o : Operation) :
    (o.residue m.counted).memory = o.memoryAfter m := by
  cases o <;> rfl

theorem writes_of_memoryAfter_ne {m : Machine} {o : Operation}
    (ho : m.operation? = some o) {a : Nat}
    (h : (o.memoryAfter m).get a ≠ m.memory.get a) : m.Writes a := by
  obtain ⟨hpc, hm, hc⟩ := operation?_eq_some_iff.1 ho
  have hpc := fits_pc_iff.2 hpc
  cases o with
  | storeDigits x =>
      obtain ⟨hi, ha, hlow, hhigh⟩ := Memory.stored_of_get_fill_ne h
      have hl : ((digits (m.registers.named x)).map lowByte).length = 3 := rfl
      exact ⟨hpc, ⟨hi, ha⟩, .digits hm ⟨hlow, by omega⟩⟩
  | storeRegisters x =>
      obtain rfl := hc
      obtain ⟨hi, ha, hlow, hhigh⟩ := Memory.stored_of_get_fill_ne h
      rw [Registers.length_span] at hhigh
      exact ⟨hpc, ⟨hi, ha⟩, .row hm ⟨hlow, by omega⟩⟩
  | _ => exact absurd rfl h

/-- A byte that a call changes is one that it writes. -/
theorem writes_of_changed {m : Machine} {a : Nat}
    (h : m.attempt.memory.get a ≠ m.memory.get a) : m.Writes a := by
  cases hs : step m with
  | ok u m' =>
      obtain ⟨o, ho, -, rfl⟩ := step_eq_ok_iff.1 hs
      rw [attempt_of_ok hs, memory_completed] at h
      exact writes_of_memoryAfter_ne ho h
  | error f m' =>
      rw [attempt_of_error hs] at h
      rcases step_eq_error_iff.1 hs with ⟨-, -, rfl⟩ | ⟨o, ho, -, rfl⟩
      · exact absurd rfl h
      · rw [memory_residue_eq] at h
        exact writes_of_memoryAfter_ne ho h

/-! ## One call on both -/

/-- What a call on two machines leaves that differed at one address: they still differ
there at most, and not at all if it was written. -/
def StayAgreed (a : Nat) (m n n' : Machine) : Prop :=
  n.AgreeOff a n' ∧ (m.Writes a → n' = n)

theorem stayAgreed {a : Nat} {m n : Machine} {mem : Memory Image.memorySize}
    (h : ∀ b, b ≠ a → mem.get b = m.memory.get b) {o : Operation}
    (ho : m.operation? = some o) (hn : n.memory = o.memoryAfter m) :
    StayAgreed a m n { n with memory := o.memoryAfter { m with memory := mem } } := by
  refine ⟨⟨_, rfl, fun b hb => ?_⟩, fun hw => ?_⟩
  · rw [hn]
    exact get_memoryAfter_congr h o b hb
  · rw [memoryAfter_of_writes h hw ho, ← hn]

theorem AgreeOff.step {a : Nat} {m m' : Machine} (h : m.AgreeOff a m')
    (hr : ¬ m.Reads a) :
    (∃ n n', Machine.step m = .ok () n ∧ Machine.step m' = .ok () n' ∧
        StayAgreed a m n n') ∨
      ∃ f n n', Machine.step m = .error f n ∧ Machine.step m' = .error f n' ∧
        StayAgreed a m n n' := by
  obtain ⟨mem, rfl, hmem⟩ := h
  have ho' := operation?_of_not_reads hmem hr
  cases ho : m.operation? with
  | none =>
      rw [ho] at ho'
      refine Or.inr ⟨m.fetchFault, m, _, step_of_none ho, ?_, ⟨mem, rfl, hmem⟩, ?_⟩
      · rw [step_of_none ho', fetchFault_of_not_reads hmem hr]
      · intro hw
        obtain ⟨o, hsome⟩ := exists_operation_of_writes hw
        exact nomatch ho.symm.trans hsome
  | some o =>
      rw [ho] at ho'
      have hfault : o.fault? { m with memory := mem } = o.fault? m := by cases o <;> rfl
      have hs := step_of_some ho
      have hs' := step_of_some ho'
      rw [hfault] at hs'
      cases hf : o.fault? m with
      | none =>
          rw [hf] at hs hs'
          refine Or.inl ⟨_, _, hs, hs', ?_⟩
          rw [completed_of_not_reads hmem hr ho hf]
          exact stayAgreed hmem ho (memory_completed m o)
      | some f =>
          rw [hf] at hs hs'
          refine Or.inr ⟨f, _, _, hs, hs', ?_⟩
          rw [residue_of_not_reads hmem hr ho]
          exact stayAgreed hmem ho (memory_residue_eq m o)

theorem AgreeOff.attempt {a : Nat} {m m' : Machine} (h : m.AgreeOff a m')
    (hr : ¬ m.Reads a) : StayAgreed a m m.attempt m'.attempt := by
  rcases h.step hr with ⟨n, n', hs, hs', hn⟩ | ⟨f, n, n', hs, hs', hn⟩
  · rw [attempt_of_ok hs, attempt_of_ok hs']
    exact hn
  · rw [attempt_of_error hs, attempt_of_error hs']
    exact hn

theorem AgreeOff.fails_iff {a : Nat} {m m' : Machine} (h : m.AgreeOff a m')
    (hr : ¬ m.Reads a) (f : Fault) :
    (∃ n, Machine.step m' = .error f n) ↔ ∃ n, Machine.step m = .error f n := by
  rcases h.step hr with ⟨n, n', hs, hs', -⟩ | ⟨g, n, n', hs, hs', -⟩
  · rw [hs, hs']
    constructor <;> rintro ⟨_, hf⟩ <;> cases hf
  · rw [hs, hs']
    constructor <;> rintro ⟨_, hf⟩ <;> cases hf <;> exact ⟨_, rfl⟩

theorem AgreeOff.writes_iff {a : Nat} {m m' : Machine} (h : m.AgreeOff a m')
    (hr : ¬ m.Reads a) : m'.Writes a ↔ m.Writes a := by
  obtain ⟨mem, rfl, hmem⟩ := h
  exact writes_of_not_reads hmem hr

/-! ## A run on both -/

theorem AgreeOff.iterate_attempt {a : Nat} {m m' : Machine} (h : m.AgreeOff a m') {n : Nat}
    (hr : ∀ i < n, ¬ (Machine.attempt^[i] m).Reads a) :
    (Machine.attempt^[n] m).AgreeOff a (Machine.attempt^[n] m') := by
  induction n with
  | zero => exact h
  | succ n ih =>
      rw [Function.iterate_succ_apply', Function.iterate_succ_apply']
      have hn := ih fun i hi => hr i (Nat.lt_succ_of_lt hi)
      exact (hn.attempt (hr n (Nat.lt_succ_self n))).1

/-- Two runs that differ in a byte, up to a moment before which the first has not read
it. They fail at the same steps and with the same faults, give their devices the same
and count the same; and they differ in that byte at most. Both write it at the same
steps, and nothing but writing changes it. From the first time they do they are the
same machine for good. -/
structure Parallel (a : Nat) (m m' : Machine) (n : Nat) : Prop where
  agree : (attempt^[n] m).AgreeOff a (attempt^[n] m')
  faults : ∀ i < n, ∀ f, (∃ s, step (attempt^[i] m') = .error f s) ↔
    ∃ s, step (attempt^[i] m) = .error f s
  output : (attempt^[n] m').output = (attempt^[n] m).output
  statistics : (attempt^[n] m').statistics = (attempt^[n] m).statistics
  writes : ∀ i < n, (attempt^[i] m').Writes a ↔ (attempt^[i] m).Writes a
  changes : ∀ i < n,
    (attempt^[i + 1] m).memory.get a ≠ (attempt^[i] m).memory.get a ∨
        (attempt^[i + 1] m').memory.get a ≠ (attempt^[i] m').memory.get a →
      (attempt^[i] m).Writes a
  merge : ∀ i < n, (attempt^[i] m).Writes a → ∀ k, i < k → attempt^[k] m' = attempt^[k] m

/-- A byte that is not read makes no difference. -/
theorem unread_makes_no_difference {a : Nat} {m m' : Machine} (h : m.AgreeOff a m')
    {n : Nat} (hr : ∀ i < n, ¬ (attempt^[i] m).Reads a) : Parallel a m m' n := by
  have hagree : ∀ i, i ≤ n → (attempt^[i] m).AgreeOff a (attempt^[i] m') :=
    fun i hi => h.iterate_attempt fun j hj => hr j (Nat.lt_of_lt_of_le hj hi)
  have hbefore : ∀ i, i < n → (attempt^[i] m).AgreeOff a (attempt^[i] m') :=
    fun i hi => hagree i (Nat.le_of_lt hi)
  have hwrites : ∀ i < n, (attempt^[i] m').Writes a ↔ (attempt^[i] m).Writes a :=
    fun i hi => (hbefore i hi).writes_iff (hr i hi)
  obtain ⟨mem, hend, -⟩ := hagree n (Nat.le_refl n)
  exact {
    agree := hagree n (Nat.le_refl n)
    faults := fun i hi f => (hbefore i hi).fails_iff (hr i hi) f
    output := by rw [hend]
    statistics := by rw [hend]
    writes := hwrites
    changes := by
      intro i hi hchanged
      rw [Function.iterate_succ_apply', Function.iterate_succ_apply'] at hchanged
      rcases hchanged with hfirst | hsecond
      · exact writes_of_changed hfirst
      · exact (hwrites i hi).1 (writes_of_changed hsecond)
    merge := by
      intro i hi hw k hk
      obtain ⟨d, rfl⟩ : ∃ d, k = d + (i + 1) := ⟨k - (i + 1), by omega⟩
      have hsame : attempt^[i + 1] m' = attempt^[i + 1] m := by
        rw [Function.iterate_succ_apply', Function.iterate_succ_apply']
        exact ((hbefore i hi).attempt (hr i hi)).2 hw
      rw [Function.iterate_add_apply attempt d, Function.iterate_add_apply attempt d, hsame] }

/-- A byte is stored at an address where one of two machines has another byte. The
difference is gone, and it does not come back. -/
theorem unread_makes_no_difference_stored :
    ∃ m m' : Machine, m = holding [0xF0, 0x55] 0x300 ∧
      m' = { m with memory := m.memory.set 0x300 9 } ∧
      m'.memory.get 0x300 ≠ m.memory.get 0x300 ∧
      m.AgreeOff 0x300 m' ∧ (∀ i < 1, ¬ (attempt^[i] m).Reads 0x300) ∧
      Parallel 0x300 m m' 1 ∧ ∀ k, 0 < k → attempt^[k] m' = attempt^[k] m := by
  obtain ⟨m, hm⟩ : ∃ m, m = holding [0xF0, 0x55] 0x300 := ⟨_, rfl⟩
  have hpc : m.pc = 0x200 := by rw [hm]; rfl
  have hindex : m.index = 0x300 := by rw [hm]; rfl
  have hw : m.word = 0xF055 := by
    rw [hm]
    exact word_holding (by decide) (by decide)
  have hbyte : m.memory.get 0x300 = 0 := by
    rw [hm]
    show (initialMemory [0xF0, 0x55]).get 0x300 = 0
    rw [initialMemory, bareMemory, Memory.get_setAll_of_outside _ _ (Or.inr (by decide)),
      Memory.get_setAll_of_outside _ _ (Or.inr (by decide)), Memory.get_blank]
  have hagree : m.AgreeOff 0x300 { m with memory := m.memory.set 0x300 9 } := by
    refine ⟨_, rfl, fun b hb => ?_⟩
    rw [Memory.get_set, if_neg fun he => hb he.1.symm]
  have hread : ∀ i < 1, ¬ (attempt^[i] m).Reads 0x300 := by
    intro i hi
    obtain rfl : i = 0 := by omega
    rw [Function.iterate_zero_apply]
    rintro (⟨-, ha⟩ | ⟨-, hword, -⟩ | ⟨-, hword, -⟩)
    · omega
    · rw [hw] at hword
      exact absurd hword (by decide)
    · rw [hw] at hword
      exact absurd hword (by decide)
  have hwrites : m.Writes 0x300 := by
    refine ⟨fits_pc_iff.2 (by omega), ⟨by omega, by decide⟩, .row (by rw [hw]; decide) ?_⟩
    omega
  have hpar := unread_makes_no_difference hagree hread
  refine ⟨m, _, hm, rfl, ?_, hagree, hread, hpar, hpar.merge 0 (by omega) hwrites⟩
  rw [hbyte, Memory.get_set, if_pos ⟨rfl, by decide⟩]
  decide

end Machine

end ChipEight
