import ChipEight.Proofs.Machine.Footprint

/-!
# Registers put away and fetched back

A program saves its registers by storing a row of them at the index and loads the row again
when it needs them. The two instructions go by the same rule, the first registers up to the
one that is named and the addresses from the index upwards, but they do not leave the index
in the same place: a load moves it behind the row and a store does not. So a row that was
stored can be loaded at once, and to store a row where it was loaded from the index has to be
put back.

`Stored` and `Loaded` say what each of the two leaves, and that they undo each other follows
from these alone. It makes no difference what happens in between, as long as the row and the
index stay where they are.
-/

namespace ChipEight.Machine

/-- The word that stores the registers up to one. -/
def storeWord (x : Fin 16) : Nat := wordOfDigits 0xF x 0x55

/-- The word that loads the registers up to one. -/
def loadWord (x : Fin 16) : Nat := wordOfDigits 0xF x 0x65

/-- The registers up to one are in memory from the index upwards, and nothing else in memory
has changed. -/
structure Stored (m : Machine) (x : Fin 16) (m' : Machine) : Prop where
  registers : m'.registers = m.registers
  index : m'.index = m.index
  inside : ∀ i ≤ x, m'.memory.get (m.index.toNat + i) = m.registers.get i
  outside : ∀ a : Nat, m'.memory.get a ≠ m.memory.get a → m.index ≤ a ∧ a ≤ m.index + x

/-- The registers up to one hold what is in memory from the index upwards, the others are as
they were, and the index is behind the row. -/
structure Loaded (m : Machine) (x : Fin 16) (m' : Machine) : Prop where
  memory : m'.memory = m.memory
  index : m'.index = (m.index + x + 1) % 65536
  inside : ∀ i ≤ x, m'.registers.get i = m.memory.get (m.index.toNat + i)
  outside : ∀ i, x < i → m'.registers.get i = m.registers.get i

/-! ## Undoing each other -/

variable {m m' m₁ m₂ : Machine} {x : Fin 16}

/-- What was stored is what is loaded from the same place. -/
theorem Stored.get_of_loaded (h : m.Stored x m₁) (hmemory : m'.memory = m₁.memory)
    (hindex : m'.index = m₁.index) (h' : m'.Loaded x m₂) {i : Fin 16} (hi : i ≤ x) :
    m₂.registers.get i = m.registers.get i := by
  rw [h'.inside i hi, hmemory, hindex, h.index, h.inside i hi]

/-- What was loaded is already where it is to be stored. -/
theorem Loaded.memory_of_stored (h : m.Loaded x m₁) (hmemory : m'.memory = m₁.memory)
    (hregisters : m'.registers = m₁.registers) (h₀ : 0 ≤ m.index) (hindex : m'.index = m.index)
    (h' : m'.Stored x m₂) : m₂.memory = m.memory := by
  have hsame : m'.memory = m.memory := hmemory.trans h.memory
  apply Memory.ext_get
  intro a _
  by_cases hne : m₂.memory.get a = m'.memory.get a
  · rw [hne, hsame]
  · obtain ⟨hlow, hhigh⟩ := h'.outside a hne
    rw [hindex] at hlow hhigh
    obtain ⟨i, hi⟩ : ∃ i : Nat, a = m.index.toNat + i := ⟨a - m.index.toNat, by omega⟩
    have hix : (⟨i, by omega⟩ : Fin 16) ≤ x := by
      rw [Fin.le_def]
      show i ≤ x
      omega
    have hstored := h'.inside _ hix
    rw [hindex, hregisters, h.inside _ hix] at hstored
    rw [hi]
    exact hstored

/-! ## What the two instructions do -/

theorem encodedBy_storeWord (x : Fin 16) :
    (Operation.storeRegisters x).EncodedBy (storeWord x) :=
  Operation.encodedBy_byte (by decide) (by decide) rfl fun _ => Iff.rfl

theorem encodedBy_loadWord (x : Fin 16) :
    (Operation.loadRegisters x).EncodedBy (loadWord x) :=
  Operation.encodedBy_byte (by decide) (by decide) rfl fun _ => Iff.rfl

theorem toNat_succ (x : Fin 16) : ((x : Int) + 1).toNat = x + 1 := by omega

section

variable (h₀ : 0 ≤ m.index)
include h₀

theorem inside_of_memoryAfter_store {a : Nat}
    (h : ((Operation.storeRegisters x).memoryAfter m).get a ≠ m.memory.get a) :
    m.index ≤ a ∧ a ≤ m.index + x := by
  have hin := Memory.inside_of_get_fill_ne h₀ h
  rw [Registers.length_span] at hin
  omega

variable (hfits : m.index + x ≤ 4095)
include hfits

theorem fault?_store : (Operation.storeRegisters x).fault? m = none := by
  rw [Operation.fault?, Memory.blockFault?, if_pos]
  rw [Memory.fits_block_iff, Image.memorySize]
  omega

/-- A load goes through the same addresses. -/
theorem fault?_load : (Operation.loadRegisters x).fault? m = none :=
  fault?_store h₀ hfits

theorem get_memoryAfter_store {i : Fin 16} (hi : i ≤ x) :
    ((Operation.storeRegisters x).memoryAfter m).get (m.index.toNat + i) =
      m.registers.get i := by
  have hin : m.index.toNat ≤ m.index.toNat + i ∧ m.index.toNat + i < m.index.toNat + (x + 1) ∧
      m.index.toNat + i < Image.memorySize := by
    rw [Image.memorySize]
    omega
  rw [Operation.memoryAfter, toNat_succ, Memory.get_fill h₀, Registers.length_span, if_pos hin,
    Nat.add_sub_cancel_left, Registers.getD_span _ (by omega), Nat.zero_add,
    Registers.named_val]

theorem get_registersAfter_load (i : Fin 16) :
    ((Operation.loadRegisters x).registersAfter m).get i =
      if i ≤ x then m.memory.get (m.index.toNat + i) else m.registers.get i := by
  have hlength : (m.memory.block m.index (x + 1)).length = x + 1 := by
    rw [Memory.length_block h₀, Image.memorySize]
    omega
  rw [Operation.registersAfter, toNat_succ, Registers.get_setAll _ _ (by omega), hlength]
  by_cases hi : i ≤ x
  · rw [if_pos (by omega), if_pos hi, Nat.sub_zero, Memory.getD_block h₀]
    rw [Image.memorySize]
    omega
  · rw [if_neg (by omega), if_neg hi]

theorem stored_of_eq (hregisters : m'.registers = m.registers) (hindex : m'.index = m.index)
    (hmemory : m'.memory = (Operation.storeRegisters x).memoryAfter m) : m.Stored x m' where
  registers := hregisters
  index := hindex
  inside i hi := by rw [hmemory, get_memoryAfter_store h₀ hfits hi]
  outside a h := inside_of_memoryAfter_store h₀ (hmemory ▸ h)

theorem loaded_of_eq (hmemory : m'.memory = m.memory)
    (hindex : m'.index = (m.index + x + 1) % 65536)
    (hregisters : m'.registers = (Operation.loadRegisters x).registersAfter m) :
    m.Loaded x m' where
  memory := hmemory
  index := hindex
  inside i hi := by rw [hregisters, get_registersAfter_load h₀ hfits, if_pos hi]
  outside i hi := by
    rw [hregisters, get_registersAfter_load h₀ hfits, if_neg (by omega)]

theorem exists_execute_storeWord :
    ∃ m', (Instruction.ofWord (storeWord x)).execute m = .ok (m.pc + 2) m' ∧
      m' = { m with memory := m'.memory } ∧ m.Stored x m' := by
  refine ⟨(Operation.storeRegisters x).effect m, ?_, rfl, stored_of_eq h₀ hfits rfl rfl rfl⟩
  rw [Instruction.execute_of_encodedBy (encodedBy_storeWord x),
    Operation.outcome_of_none (fault?_store h₀ hfits)]
  rfl

theorem exists_execute_loadWord :
    ∃ m', (Instruction.ofWord (loadWord x)).execute m = .ok (m.pc + 2) m' ∧
      m' = { m with registers := m'.registers, index := m'.index } ∧ m.Loaded x m' := by
  refine ⟨(Operation.loadRegisters x).effect m, ?_, rfl, loaded_of_eq h₀ hfits rfl rfl rfl⟩
  rw [Instruction.execute_of_encodedBy (encodedBy_loadWord x),
    Operation.outcome_of_none (fault?_load h₀ hfits)]
  rfl

theorem exists_step_storeWord (hpc : 0 ≤ m.pc ∧ m.pc ≤ 4094) (hw : m.word = storeWord x) :
    ∃ m', step m = .ok () m' ∧ m.Stored x m' := by
  have ho : m.operation? = some (.storeRegisters x) :=
    operation?_of_encodedBy hpc (hw ▸ encodedBy_storeWord x)
  refine ⟨_, step_eq_ok_iff.2 ⟨_, ho, fault?_store h₀ hfits, rfl⟩, ?_⟩
  refine stored_of_eq h₀ hfits (registers_completed m _) ?_ (memory_completed m _)
  rw [completed_eq]
  rfl

theorem exists_step_loadWord (hpc : 0 ≤ m.pc ∧ m.pc ≤ 4094) (hw : m.word = loadWord x) :
    ∃ m', step m = .ok () m' ∧ m.Loaded x m' := by
  have ho : m.operation? = some (.loadRegisters x) :=
    operation?_of_encodedBy hpc (hw ▸ encodedBy_loadWord x)
  refine ⟨_, step_eq_ok_iff.2 ⟨_, ho, fault?_load h₀ hfits, rfl⟩, ?_⟩
  refine loaded_of_eq h₀ hfits (memory_completed m _) ?_ (registers_completed m _)
  rw [completed_eq]
  rfl

end

/-! ## There and back -/

/-- What becomes of a row of registers that is stored and loaded again, and of a row in memory
that is loaded and stored again. Each instruction is carried out by itself, or by the step
that fetches it. Between a store and the load anything may be done to the machine that leaves
its memory and its index alone, and between a load and the store anything that leaves its
memory and its registers alone and puts the index back. -/
structure ComesBack (m : Machine) (x : Fin 16) : Prop where
  stored : ∃ m₁, (Instruction.ofWord (storeWord x)).execute m = .ok (m.pc + 2) m₁ ∧
    m₁ = { m with memory := m₁.memory } ∧ m.Stored x m₁ ∧
    ∀ m' : Machine, m'.memory = m₁.memory → m'.index = m₁.index →
      ∃ m₂, (Instruction.ofWord (loadWord x)).execute m' = .ok (m'.pc + 2) m₂ ∧
        m₂ = { m' with registers := m₂.registers, index := m₂.index } ∧ m'.Loaded x m₂ ∧
        ∀ i ≤ x, m₂.registers.get i = m.registers.get i
  loaded : ∃ m₁, (Instruction.ofWord (loadWord x)).execute m = .ok (m.pc + 2) m₁ ∧
    m₁ = { m with registers := m₁.registers, index := m₁.index } ∧ m.Loaded x m₁ ∧
    ∀ m' : Machine, m'.memory = m₁.memory → m'.registers = m₁.registers →
      m'.index = m.index →
      ∃ m₂, (Instruction.ofWord (storeWord x)).execute m' = .ok (m'.pc + 2) m₂ ∧
        m₂ = { m' with memory := m₂.memory } ∧ m₂.memory = m.memory
  storedByStep : 0 ≤ m.pc ∧ m.pc ≤ 4094 → m.word = storeWord x →
    ∃ m₁, step m = .ok () m₁ ∧ m.Stored x m₁ ∧
      ∀ m' : Machine, m'.memory = m₁.memory → m'.index = m₁.index →
        0 ≤ m'.pc ∧ m'.pc ≤ 4094 → m'.word = loadWord x →
        ∃ m₂, step m' = .ok () m₂ ∧ m'.Loaded x m₂ ∧
          ∀ i ≤ x, m₂.registers.get i = m.registers.get i
  loadedByStep : 0 ≤ m.pc ∧ m.pc ≤ 4094 → m.word = loadWord x →
    ∃ m₁, step m = .ok () m₁ ∧ m.Loaded x m₁ ∧
      ∀ m' : Machine, m'.memory = m₁.memory → m'.registers = m₁.registers →
        m'.index = m.index → 0 ≤ m'.pc ∧ m'.pc ≤ 4094 → m'.word = storeWord x →
        ∃ m₂, step m' = .ok () m₂ ∧ m₂.memory = m.memory

/-- Wherever a row of registers fits, storing and loading it undo each other, either way
round. -/
theorem row_comes_back {m : Machine} {x : Fin 16} (h₀ : 0 ≤ m.index)
    (hfits : m.index + x ≤ 4095) : m.ComesBack x where
  stored := by
    obtain ⟨m₁, he₁, hframe₁, hstored⟩ := exists_execute_storeWord h₀ hfits
    refine ⟨m₁, he₁, hframe₁, hstored, ?_⟩
    intro m' hmemory hindex
    have hsame : m'.index = m.index := hindex.trans hstored.index
    obtain ⟨m₂, he₂, hframe₂, hloaded⟩ :=
      exists_execute_loadWord (hsame ▸ h₀) (hsame ▸ hfits)
    exact ⟨m₂, he₂, hframe₂, hloaded,
      fun i hi => hstored.get_of_loaded hmemory hindex hloaded hi⟩
  loaded := by
    obtain ⟨m₁, he₁, hframe₁, hloaded⟩ := exists_execute_loadWord h₀ hfits
    refine ⟨m₁, he₁, hframe₁, hloaded, ?_⟩
    intro m' hmemory hregisters hindex
    obtain ⟨m₂, he₂, hframe₂, hstored⟩ :=
      exists_execute_storeWord (hindex ▸ h₀) (hindex ▸ hfits)
    exact ⟨m₂, he₂, hframe₂, hloaded.memory_of_stored hmemory hregisters h₀ hindex hstored⟩
  storedByStep := by
    intro hpc hw
    obtain ⟨m₁, hs₁, hstored⟩ := exists_step_storeWord h₀ hfits hpc hw
    refine ⟨m₁, hs₁, hstored, ?_⟩
    intro m' hmemory hindex hpc' hw'
    have hsame : m'.index = m.index := hindex.trans hstored.index
    obtain ⟨m₂, hs₂, hloaded⟩ := exists_step_loadWord (hsame ▸ h₀) (hsame ▸ hfits) hpc' hw'
    exact ⟨m₂, hs₂, hloaded, fun i hi => hstored.get_of_loaded hmemory hindex hloaded hi⟩
  loadedByStep := by
    intro hpc hw
    obtain ⟨m₁, hs₁, hloaded⟩ := exists_step_loadWord h₀ hfits hpc hw
    refine ⟨m₁, hs₁, hloaded, ?_⟩
    intro m' hmemory hregisters hindex hpc' hw'
    obtain ⟨m₂, hs₂, hstored⟩ :=
      exists_step_storeWord (hindex ▸ h₀) (hindex ▸ hfits) hpc' hw'
    exact ⟨m₂, hs₂, hloaded.memory_of_stored hmemory hregisters h₀ hindex hstored⟩

/-- All registers at the last place where they fit: every one of them comes back, whatever the
bank holds by then. -/
theorem row_comes_back_whole :
    ∃ m : Machine, m = holding [0xFF, 0x55] 0xFF0 ∧ 0 ≤ m.index ∧
      m.index + (15 : Fin 16) ≤ 4095 ∧ m.ComesBack 15 ∧
      ∃ m₁, (Instruction.ofWord (storeWord 15)).execute m = .ok (m.pc + 2) m₁ ∧
        ∀ r : Registers, ∃ m₂,
          (Instruction.ofWord (loadWord 15)).execute { m₁ with registers := r } =
            .ok (m₁.pc + 2) m₂ ∧ ∀ i, m₂.registers.get i = m.registers.get i := by
  have h₀ : 0 ≤ (holding [0xFF, 0x55] 0xFF0).index := by decide
  have hfits : (holding [0xFF, 0x55] 0xFF0).index + (15 : Fin 16) ≤ 4095 := by decide
  have hback := row_comes_back h₀ hfits
  obtain ⟨m₁, he₁, -, -, hload⟩ := hback.stored
  refine ⟨_, rfl, h₀, hfits, hback, m₁, he₁, fun r => ?_⟩
  obtain ⟨m₂, he₂, -, -, hget⟩ := hload { m₁ with registers := r } rfl rfl
  exact ⟨m₂, he₂, fun i => hget i (Fin.le_last i)⟩

end ChipEight.Machine
