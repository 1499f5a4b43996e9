import ChipEight.Proofs.Machine.Cycle
import ChipEight.Proofs.Tally

/-!
# When a step fails, and what is left of it

`Faulty` lists every way in which a step can fail, as a condition on the machine
before the step: where the program counter stands, which pattern the word has,
how deep the calls are, and how far the index is from the end of memory. The
bounds differ from one to the next. A sprite is checked as a block, so that one
without rows fails as well where the index is past the end. The three others
go byte by byte, and what they report is the first address outside.

The second half is about the machine that a failing step leaves. Nothing is
undone: the instruction has been noted and counted, and the part of a block that
lay inside has been stored or loaded. Everything else is as it was.
-/

namespace ChipEight

namespace Machine

/-- What the owner of a machine has to respect when putting it into a state by
hand. Neither address needs a bound from above. -/
structure WellFormed (m : Machine) : Prop where
  pc : 0 ≤ m.pc
  index : 0 ≤ m.index
  capacity : m.calls.capacity = 16

/-- The faults of the machine's next step: a word that leaves the memory, a word
that is no instruction, a call with every slot in use, a return with no call to
return from, a sprite with as many rows as the low digit says, three digits, and
the registers up to the one that the second digit names, either way. -/
inductive Faulty (m : Machine) : Fault → Prop where
  | fetch (hpc : 4094 < m.pc) : Faulty m (.outOfBounds m.pc)
  | decode (hpc : m.pc ≤ 4094) (hw : ¬ IsInstruction m.word) :
      Faulty m (.unknownInstruction m.word (some m.pc))
  | overflow (hpc : m.pc ≤ 4094) (hw : (Pattern.family 0x2).Matches m.word)
      (hfull : m.calls.frames.length = 16) : Faulty m (.callStackOverflow 16 m.pc)
  | underflow (hpc : m.pc ≤ 4094) (hw : (Pattern.byte 0x0 0xEE).Matches m.word)
      (hempty : m.calls.frames = []) : Faulty m .callStackUnderflow
  | sprite (hpc : m.pc ≤ 4094) (hw : (Pattern.family 0xD).Matches m.word)
      (hout : 4096 < m.index + (m.word % 16 : Nat)) : Faulty m (.outOfBounds m.index)
  | digits (hpc : m.pc ≤ 4094) (hw : (Pattern.byte 0xF 0x33).Matches m.word)
      (hout : 4093 < m.index) : Faulty m (.outOfBounds (max m.index 4096))
  | registers (hpc : m.pc ≤ 4094)
      (hw : (Pattern.byte 0xF 0x55).Matches m.word ∨
        (Pattern.byte 0xF 0x65).Matches m.word)
      (hout : 4095 < m.index + (m.word / 256 % 16 : Nat)) :
      Faulty m (.outOfBounds (max m.index 4096))

/-- A block at the index fails where it ends past the end of memory. -/
theorem blockFault?_index_iff {m : Machine} (wf : m.WellFormed) {count : Nat}
    {f : Fault} :
    Memory.blockFault? Image.memorySize m.index count = some f ↔
      (count ≠ 0 ∧ 4096 < m.index + count) ∧ f = .outOfBounds (max m.index 4096) :=
  Memory.blockFault?_eq_some_iff wf.index

/-! ## Every fault is listed -/

theorem fetchFault_faulty {m : Machine} (wf : m.WellFormed) (h : m.operation? = none) :
    m.Faulty m.fetchFault := by
  have hpc := wf.pc
  rw [fetchFault]
  split
  · next hfits =>
      rw [fits_pc_iff] at hfits
      refine .decode hfits.2 fun hw => ?_
      obtain ⟨o, ho⟩ := (isInstruction_word_iff hfits).1 hw
      rw [h] at ho
      cases ho
  · next hout =>
      rw [fits_pc_iff] at hout
      exact .fetch (by omega)

theorem fault_faulty {m : Machine} (wf : m.WellFormed) {o : Operation} {f : Fault}
    (ho : m.operation? = some o) (hf : o.fault? m = some f) : m.Faulty f := by
  obtain ⟨⟨-, hpc⟩, hw, hc⟩ := operation?_eq_some_iff.1 ho
  have hi := wf.index
  cases o with
  | call a =>
      rw [Operation.fault?, wf.capacity] at hf
      split at hf
      · cases hf
      · next hfull =>
          cases hf
          have := m.calls.depth_le_capacity
          rw [wf.capacity] at this
          exact .overflow hpc hw (by rw [CallStack.length_frames]; omega)
  | ret =>
      rw [Operation.fault?] at hf
      split at hf
      · next hempty =>
          cases hf
          rw [← CallStack.length_frames] at hempty
          exact .underflow hpc hw (List.eq_nil_of_length_eq_zero hempty)
      · cases hf
  | draw x y n =>
      obtain ⟨-, -, rfl⟩ := hc
      rw [Operation.fault?] at hf
      split at hf
      · cases hf
      · next hout =>
          cases hf
          rw [Memory.fits_block_iff, Image.memorySize] at hout
          exact .sprite hpc hw (by omega)
  | storeDigits x =>
      obtain ⟨⟨-, hout⟩, rfl⟩ := (blockFault?_index_iff wf).1 hf
      exact .digits hpc hw (by omega)
  | storeRegisters x =>
      obtain rfl := hc
      obtain ⟨⟨-, hout⟩, rfl⟩ := (blockFault?_index_iff wf).1 hf
      exact .registers hpc (Or.inl hw) (by omega)
  | loadRegisters x =>
      obtain rfl := hc
      obtain ⟨⟨-, hout⟩, rfl⟩ := (blockFault?_index_iff wf).1 hf
      exact .registers hpc (Or.inr hw) (by omega)
  | _ => cases hf

theorem faulty_of_step {m m' : Machine} (wf : m.WellFormed) {f : Fault}
    (h : step m = .error f m') : m.Faulty f := by
  rcases step_eq_error_iff.1 h with ⟨ho, rfl, -⟩ | ⟨o, ho, hf, -⟩
  · exact fetchFault_faulty wf ho
  · exact fault_faulty wf ho hf

/-! ## Every listed fault occurs -/

theorem exists_step_of_fault {m : Machine} {o : Operation} {f : Fault}
    (ho : m.operation? = some o) (hf : o.fault? m = some f) :
    ∃ m', step m = .error f m' :=
  ⟨_, step_eq_error_iff.2 (Or.inr ⟨o, ho, hf, rfl⟩)⟩

theorem Faulty.exists_step {m : Machine} (wf : m.WellFormed) {f : Fault}
    (h : m.Faulty f) : ∃ m', step m = .error f m' := by
  have hpc₀ := wf.pc
  have hi := wf.index
  cases h with
  | fetch hpc => exact ⟨m, step_of_top hpc⟩
  | decode hpc hw =>
      have hnone : m.operation? = none := by
        rw [Option.eq_none_iff_forall_not_mem]
        intro o ho
        exact hw ((isInstruction_word_iff ⟨hpc₀, hpc⟩).2 ⟨o, ho⟩)
      refine ⟨m, step_eq_error_iff.2 (Or.inl ⟨hnone, ?_, rfl⟩)⟩
      rw [fetchFault, if_pos (fits_pc_iff.2 ⟨hpc₀, hpc⟩)]
  | overflow hpc hw hfull =>
      have ho : m.operation? = some (.call (m.word % 4096 : Nat)) :=
        operation?_of_matches ⟨hpc₀, hpc⟩ hw rfl
      refine exists_step_of_fault ho ?_
      rw [CallStack.length_frames] at hfull
      rw [Operation.fault?, wf.capacity, if_neg (by omega)]
  | underflow hpc hw hempty =>
      have ho : m.operation? = some .ret := operation?_of_matches ⟨hpc₀, hpc⟩ hw trivial
      refine exists_step_of_fault ho ?_
      rw [Operation.fault?, if_pos (by rw [← CallStack.length_frames, hempty]; rfl)]
  | sprite hpc hw hout =>
      have ho : m.operation? = some (.draw (m.word / 256 % 16 : Nat)
          (m.word / 16 % 16 : Nat) (m.word % 16 : Nat)) :=
        operation?_of_matches ⟨hpc₀, hpc⟩ hw ⟨rfl, rfl, rfl⟩
      refine exists_step_of_fault ho ?_
      have hfits : ¬ Memory.Fits Image.memorySize m.index (m.word % 16 : Nat) := by
        rw [Memory.fits_block_iff, Image.memorySize]
        omega
      rw [Operation.fault?, if_neg hfits]
  | digits hpc hw hout =>
      have ho : m.operation? = some (.storeDigits (m.word / 256 % 16 : Nat)) :=
        operation?_of_matches ⟨hpc₀, hpc⟩ hw rfl
      refine exists_step_of_fault ho ?_
      exact (blockFault?_index_iff wf).2 ⟨⟨by omega, by omega⟩, rfl⟩
  | registers hpc hw hout =>
      have hf : Memory.blockFault? Image.memorySize m.index
          ((m.word / 256 % 16 : Nat) + 1 : Int).toNat =
            some (.outOfBounds (max m.index 4096)) :=
        (blockFault?_index_iff wf).2 ⟨⟨by omega, by omega⟩, rfl⟩
      rcases hw with hw | hw
      · have ho : m.operation? = some (.storeRegisters (m.word / 256 % 16 : Nat)) :=
          operation?_of_matches ⟨hpc₀, hpc⟩ hw rfl
        exact exists_step_of_fault ho hf
      · have ho : m.operation? = some (.loadRegisters (m.word / 256 % 16 : Nat)) :=
          operation?_of_matches ⟨hpc₀, hpc⟩ hw rfl
        exact exists_step_of_fault ho hf

/-- What an operation finds wrong is an address or the call stack. -/
theorem fault?_cases {m : Machine} {o : Operation} {f : Fault} (h : o.fault? m = some f) :
    (∃ a, f = .outOfBounds a) ∨ (∃ capacity site, f = .callStackOverflow capacity site) ∨
      f = .callStackUnderflow := by
  cases o with
  | call _ =>
      rw [Operation.fault?] at h
      split at h <;> cases h
      exact Or.inr (Or.inl ⟨_, _, rfl⟩)
  | ret =>
      rw [Operation.fault?] at h
      split at h <;> cases h
      exact Or.inr (Or.inr rfl)
  | draw _ _ _ =>
      rw [Operation.fault?] at h
      split at h <;> cases h
      exact Or.inl ⟨_, rfl⟩
  | storeDigits _ | storeRegisters _ | loadRegisters _ =>
      rw [Operation.fault?, Memory.blockFault?] at h
      split at h <;> cases h
      exact Or.inl ⟨_, rfl⟩
  | _ => cases h

/-- Once an instruction is decoded, its execution never finds it unknown. -/
theorem fault?_ne_unknownInstruction (m : Machine) (o : Operation) (w : Int)
    (a : Option Int) : o.fault? m ≠ some (.unknownInstruction w a) := by
  intro h
  rcases fault?_cases h with ⟨_, hf⟩ | ⟨_, _, hf⟩ | hf <;> cases hf

/-- The registers it names are there. -/
theorem fault?_ne_noSuchRegister (m : Machine) (o : Operation) (access : RegisterAccess) :
    o.fault? m ≠ some (.noSuchRegister access) := by
  intro h
  rcases fault?_cases h with ⟨_, hf⟩ | ⟨_, _, hf⟩ | hf <;> cases hf

/-- A step fails exactly when one of the listed conditions holds, and then with
the fault listed. Above all it never fails for a register that is not there, and
never on behalf of an instruction that the decoder let pass. -/
theorem step_fails_iff {m : Machine} (wf : m.WellFormed) :
    (∀ f, (∃ m', step m = .error f m') ↔ m.Faulty f) ∧
      (∀ access m', step m ≠ .error (.noSuchRegister access) m') ∧
      ∀ i m₁, fetch m = .ok i m₁ →
        ∀ w a m', step m ≠ .error (.unknownInstruction w a) m' := by
  refine ⟨fun f => ⟨?_, fun h => h.exists_step wf⟩, ?_, ?_⟩
  · rintro ⟨m', h⟩
    exact faulty_of_step wf h
  · intro access m' h
    cases faulty_of_step wf h
  · intro i m₁ hi w a m' h
    rcases step_eq_error_iff.1 h with ⟨ho, -, -⟩ | ⟨o, -, hf, -⟩
    · rw [fetch_of_none ho] at hi
      cases hi
    · exact fault?_ne_unknownInstruction m o w a hf

/-- A sprite without rows fails where the index is past the end of memory. -/
theorem step_fails_iff_no_rows :
    (holding [0xD0, 0x00] 4097).WellFormed ∧
      ∃ m', step (holding [0xD0, 0x00] 4097) = .error (.outOfBounds 4097) m' := by
  have wf : (holding [0xD0, 0x00] 4097).WellFormed := ⟨by decide, by decide, by decide⟩
  have hw : (holding [0xD0, 0x00] 4097).word = 0xD000 :=
    word_holding (by decide) (by decide)
  refine ⟨wf, ((step_fails_iff wf).1 _).2 ?_⟩
  exact .sprite (by decide) (by rw [hw]; decide) (by rw [hw]; decide)

/-! ## What a failing step leaves -/

/-- What a machine is like after its instruction was decoded and then failed. Four
components may have changed and no other; the instruction was counted; of the
three instructions that go through memory, the part of the block that lies inside
was stored or loaded; and no other instruction stored or loaded anything. -/
structure Interrupted (m m' : Machine) : Prop where
  frame : m' = { m with
    memory := m'.memory
    registers := m'.registers
    statistics := m.statistics.bump m.instruction.mnemonic
    journal := m.journal.note (m.traceLine m.word m.instruction.mnemonic) }
  counts : ∀ name, m'.statistics.count name =
    m.statistics.count name + if name = m.instruction.mnemonic then 1 else 0
  digits : (Pattern.byte 0xF 0x33).Matches m.word → ∀ a < 4096,
    m'.memory.get a =
      if m.index.toNat ≤ a then
        ((Machine.digits (m.registers.named (m.word / 256 % 16 : Nat))).map lowByte).getD
          (a - m.index.toNat) 0
      else m.memory.get a
  stored : (Pattern.byte 0xF 0x55).Matches m.word → ∀ a < 4096,
    m'.memory.get a =
      if m.index.toNat ≤ a then m.registers.named (a - m.index.toNat : Nat)
      else m.memory.get a
  loaded : (Pattern.byte 0xF 0x65).Matches m.word → ∀ k : Fin 16,
    m'.registers.get k =
      if m.index.toNat + k < 4096 then m.memory.get (m.index.toNat + k)
      else m.registers.get k
  memory : ¬ (Pattern.byte 0xF 0x33).Matches m.word →
    ¬ (Pattern.byte 0xF 0x55).Matches m.word → m'.memory = m.memory
  registers : ¬ (Pattern.byte 0xF 0x65).Matches m.word → m'.registers = m.registers

theorem statistics_residue (m : Machine) (o : Operation) :
    (o.residue m).statistics = m.statistics := by
  rw [residue_eq]

theorem memory_residue {m : Machine} {o : Operation}
    (hd : ∀ x, o ≠ .storeDigits x) (hs : ∀ x, o ≠ .storeRegisters x) :
    (o.residue m).memory = m.memory := by
  cases o with
  | storeDigits x => exact absurd rfl (hd x)
  | storeRegisters x => exact absurd rfl (hs x)
  | _ => rfl

theorem registers_residue {m : Machine} {o : Operation} (hl : ∀ x, o ≠ .loadRegisters x) :
    (o.residue m).registers = m.registers := by
  cases o with
  | loadRegisters x => exact absurd rfl (hl x)
  | _ => rfl

/-- What a block store leaves when it runs into the end of memory. -/
theorem get_fill_of_out {m : Machine} (hi : 0 ≤ m.index) {bs : List UInt8} {count : Nat}
    (hl : bs.length = count) (hout : 4096 < m.index + count) {a : Nat} (ha : a < 4096) :
    (m.memory.fill m.index bs).get a =
      if m.index.toNat ≤ a then bs.getD (a - m.index.toNat) 0 else m.memory.get a := by
  rw [Memory.get_fill hi, hl]
  by_cases h : m.index.toNat ≤ a
  · rw [if_pos ⟨h, by omega, ha⟩, if_pos h]
  · rw [if_neg (fun hin => h hin.1), if_neg h]

/-- What a block load leaves when it runs into the end of memory. -/
theorem get_setAll_of_out {m : Machine} (hi : 0 ≤ m.index) {count : Nat}
    (hcount : count ≤ 16) (hout : 4096 < m.index + count) (k : Fin 16) :
    (m.registers.setAll 0 (m.memory.block m.index count)).get k =
      if m.index.toNat + k < 4096 then m.memory.get (m.index.toNat + k)
      else m.registers.get k := by
  have hl : (m.memory.block m.index count).length = 4096 - m.index.toNat := by
    rw [Memory.length_block hi, Image.memorySize]
    omega
  rw [Registers.get_setAll _ _ (by omega), hl]
  by_cases h : m.index.toNat + k < 4096
  · have hk : k < min count (Image.memorySize - m.index.toNat) := by
      rw [Image.memorySize]
      omega
    rw [if_pos (by omega), if_pos h, Nat.sub_zero, Memory.getD_block hi _ hk]
  · rw [if_neg (by omega), if_neg h]

theorem interrupted_of_fault {m : Machine} (wf : m.WellFormed) {o : Operation}
    {f : Fault} (ho : m.operation? = some o) (hf : o.fault? m = some f) :
    Interrupted m (o.residue m.counted) := by
  obtain ⟨-, hm, -⟩ := operation?_eq_some_iff.1 ho
  have hi := wf.index
  -- In each clause about a pattern, the pattern says which operation this is.
  exact {
    frame := residue_eq m.counted o
    counts := by
      intro name
      rw [statistics_residue]
      exact m.statistics.count_bump _ name
    digits := by
      intro hw a ha
      obtain rfl := eq_of_matches ho (.storeDigits (m.word / 256 % 16 : Nat)) hw rfl
      obtain ⟨⟨-, hout⟩, -⟩ := (blockFault?_index_iff wf).1 hf
      have hl : ((Machine.digits (m.registers.named (m.word / 256 % 16 : Nat))).map
          lowByte).length = 3 := rfl
      exact get_fill_of_out hi hl hout ha
    stored := by
      intro hw a ha
      obtain rfl := eq_of_matches ho (.storeRegisters (m.word / 256 % 16 : Nat)) hw rfl
      obtain ⟨⟨-, hout⟩, -⟩ := (blockFault?_index_iff wf).1 hf
      refine (get_fill_of_out hi (Registers.length_span _ _ _) hout ha).trans ?_
      split
      · next h =>
          rw [Registers.getD_span _ (by omega), Nat.zero_add]
          rfl
      · rfl
    loaded := by
      intro hw k
      obtain rfl := eq_of_matches ho (.loadRegisters (m.word / 256 % 16 : Nat)) hw rfl
      obtain ⟨⟨-, hout⟩, -⟩ := (blockFault?_index_iff wf).1 hf
      exact get_setAll_of_out hi (by omega) hout k
    memory := by
      intro hd hs
      refine memory_residue ?_ ?_
      · rintro x rfl
        exact hd hm
      · rintro x rfl
        exact hs hm
    registers := by
      intro hl
      refine registers_residue ?_
      rintro x rfl
      exact hl hm }

/-- A step that fails in its fetch or in its decoding leaves everything as it was.
One that fails later has counted its instruction, and has stored or loaded the
part of its block that lies inside the memory. -/
theorem step_leaves {m m' : Machine} (wf : m.WellFormed) {f : Fault}
    (h : step m = .error f m') :
    (fetch m = .error f m ∧ m' = m) ∨
      ((∃ m₁, fetch m = .ok m.instruction m₁) ∧ Interrupted m m') := by
  rcases step_eq_error_iff.1 h with ⟨ho, rfl, rfl⟩ | ⟨o, ho, hf, rfl⟩
  · exact Or.inl ⟨fetch_of_none ho, rfl⟩
  · exact Or.inr ⟨⟨_, fetch_of_some ho⟩, interrupted_of_fault wf ho hf⟩

/-- Two registers stored at the last address: the first is there, the second is
where the fault was. -/
theorem step_leaves_cut :
    ∃ m m' : Machine, m = holding [0xF1, 0x55] 4095 ∧
      step m = .error (.outOfBounds 4096) m' ∧
      ((fetch m = .error (.outOfBounds 4096) m ∧ m' = m) ∨
        ((∃ m₁, fetch m = .ok m.instruction m₁) ∧ Interrupted m m')) := by
  have wf : (holding [0xF1, 0x55] 4095).WellFormed := ⟨by decide, by decide, by decide⟩
  have hw : (holding [0xF1, 0x55] 4095).word = 0xF155 :=
    word_holding (by decide) (by decide)
  have hf : (holding [0xF1, 0x55] 4095).Faulty (.outOfBounds 4096) :=
    .registers (by decide) (Or.inl (by rw [hw]; decide)) (by rw [hw]; decide)
  obtain ⟨m', h⟩ := hf.exists_step wf
  exact ⟨_, m', rfl, h, step_leaves wf h⟩

end Machine

end ChipEight
