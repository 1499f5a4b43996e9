import ChipEight.Machine.Step
import ChipEight.Proofs.Machine.Effect

/-!
# One cycle in closed form

A step either stops before it has an operation, or it carries one out. Which of
the two, and which operation, is decided by the word at the program counter
alone: `operation?` is that decision. From there a step has three endings, and
`step_eq_ok_iff` and `step_eq_error_iff` are the way to get at them: no proof
about steps needs to open `step`.

The tail of a cycle is taken apart here as well. It cuts the next address to
sixteen bits, counts, and lets the timers run, after the operation has set them.
-/

namespace ChipEight

namespace Machine

open Exec

/-- The word at the program counter. -/
def word (m : Machine) : Nat := m.memory.wordAt m.pc.toNat

/-- The fields of the word at the program counter. -/
def instruction (m : Machine) : Instruction := .ofWord m.word

/-- The operation at the program counter, where there is one. -/
def operation? (m : Machine) : Option Operation :=
  if Memory.Fits Image.memorySize m.pc 2 then m.instruction.operation? else none

/-- Why there is no operation at the program counter. -/
def fetchFault (m : Machine) : Fault :=
  if Memory.Fits Image.memorySize m.pc 2 then .unknownInstruction m.word (some m.pc)
  else .outOfBounds m.pc

/-- The machine that has noted and counted its instruction. -/
def counted (m : Machine) : Machine :=
  { m with
    statistics := m.statistics.bump m.instruction.mnemonic
    journal := m.journal.note (m.traceLine m.word m.instruction.mnemonic) }

/-- The machine after a cycle that carried out an operation. -/
def completed (m : Machine) (o : Operation) : Machine :=
  advance m.instruction (o.answer m) (o.effect m.counted)

theorem word_lt (m : Machine) : m.word < 65536 := by
  have h₁ := (m.memory.get m.pc.toNat).toNat_lt
  have h₂ := (m.memory.get (m.pc.toNat + 1)).toNat_lt
  rw [word, Memory.wordAt]
  omega

theorem fits_pc_iff {m : Machine} :
    Memory.Fits Image.memorySize m.pc 2 ↔ 0 ≤ m.pc ∧ m.pc ≤ 4094 := by
  rw [Memory.Fits, Image.memorySize]
  omega

theorem operation?_eq_some_iff {m : Machine} {o : Operation} :
    m.operation? = some o ↔
      (0 ≤ m.pc ∧ m.pc ≤ 4094) ∧ o.pattern.Matches m.word ∧ o.CarriedBy m.word := by
  rw [operation?, ← fits_pc_iff]
  split
  · next h =>
      rw [instruction, Instruction.operation?_eq_some_iff m.word_lt]
      constructor
      · intro hm
        exact ⟨h, hm⟩
      · rintro ⟨-, hm⟩
        exact hm
  · next h =>
      constructor
      · intro hm
        cases hm
      · rintro ⟨hpc, -⟩
        exact absurd hpc h

theorem instruction_operation? {m : Machine} {o : Operation} (h : m.operation? = some o) :
    m.instruction.operation? = some o := by
  have hfits := fits_pc_iff.2 (operation?_eq_some_iff.1 h).1
  rwa [operation?, if_pos hfits] at h

theorem inRange_of_operation? {m : Machine} {o : Operation} (h : m.operation? = some o) :
    o.InRange :=
  (operation?_eq_some_iff.1 h).2.2.inRange

theorem operation?_of_matches {m : Machine} (hpc : 0 ≤ m.pc ∧ m.pc ≤ 4094)
    {o : Operation} (hp : o.pattern.Matches m.word) (hc : o.CarriedBy m.word) :
    m.operation? = some o :=
  operation?_eq_some_iff.2 ⟨hpc, hp, hc⟩

theorem operation?_of_encodedBy {m : Machine} (hpc : 0 ≤ m.pc ∧ m.pc ≤ 4094) {o : Operation}
    (h : o.EncodedBy m.word) : m.operation? = some o :=
  operation?_of_matches hpc h.pattern h.operands

/-- A word has the pattern of one operation only. -/
theorem eq_of_matches {m : Machine} {o : Operation} (ho : m.operation? = some o)
    (o' : Operation) (hp : o'.pattern.Matches m.word) (hc : o'.CarriedBy m.word) :
    o = o' := by
  have ho' := operation?_of_matches (operation?_eq_some_iff.1 ho).1 hp hc
  exact Option.some.inj (ho.symm.trans ho')

/-- Where a word can be fetched, there is an operation if the word is in the table. -/
theorem isInstruction_word_iff {m : Machine} (hpc : 0 ≤ m.pc ∧ m.pc ≤ 4094) :
    IsInstruction m.word ↔ ∃ o, m.operation? = some o := by
  rw [isInstruction_iff m.word_lt, operation?, if_pos (fits_pc_iff.2 hpc), instruction]

/-! ## The endings of a step -/

theorem read16_pc (m : Machine) :
    m.memory.read16 m.pc =
      if Memory.Fits Image.memorySize m.pc 2 then .ok m.word
      else .error (.outOfBounds m.pc) := rfl

theorem fetch_of_none {m : Machine} (h : m.operation? = none) :
    fetch m = .error m.fetchFault m := by
  rw [fetch, read16_pc, fetchFault]
  by_cases hfits : Memory.Fits Image.memorySize m.pc 2
  · have hi : m.instruction.operation? = none := by rwa [operation?, if_pos hfits] at h
    rw [if_pos hfits, if_pos hfits]
    simp only [Instruction.decode_word_of_none m.word_lt hi]
  · rw [if_neg hfits, if_neg hfits]

theorem fetch_of_some {m : Machine} {o : Operation} (h : m.operation? = some o) :
    fetch m = .ok m.instruction
      { m with
        journal := m.journal.note (m.traceLine m.word m.instruction.mnemonic) } := by
  have hfits := fits_pc_iff.2 (operation?_eq_some_iff.1 h).1
  have hd : Instruction.decode m.word (some m.pc) = .ok m.instruction :=
    Instruction.decode_of_some (instruction_operation? h) _
  rw [fetch, read16_pc, if_pos hfits]
  simp only [hd]

theorem execute_of_operation? {m : Machine} {o : Operation} (h : m.operation? = some o) :
    m.instruction.execute = o.execute :=
  Instruction.execute_of_some (instruction_operation? h)

theorem step_of_none {m : Machine} (h : m.operation? = none) :
    step m = .error m.fetchFault m := by
  rw [step, bind_of_error (fetch_of_none h)]

theorem step_of_top {m : Machine} (h : 4094 < m.pc) :
    step m = .error (.outOfBounds m.pc) m := by
  have hout : ¬ Memory.Fits Image.memorySize m.pc 2 := by
    rw [fits_pc_iff]
    omega
  have hnone : m.operation? = none := by rw [operation?, if_neg hout]
  rw [step_of_none hnone, fetchFault, if_neg hout]

/-- What an operation finds does not depend on what was noted and counted. -/
theorem fault?_counted (m : Machine) (o : Operation) :
    o.fault? m.counted = o.fault? m := rfl

theorem step_of_some {m : Machine} {o : Operation} (h : m.operation? = some o) :
    step m =
      match o.fault? m with
      | none => .ok () (m.completed o)
      | some f => .error f (o.residue m.counted) := by
  have he : m.instruction.execute m.counted = o.outcome m.counted := by
    rw [execute_of_operation? h, Operation.execute_eq (inRange_of_operation? h)]
  rw [step, bind_of_ok (fetch_of_some h), modify_bind]
  cases hf : o.fault? m with
  | none =>
      rw [Operation.outcome_of_none ((fault?_counted m o).trans hf)] at he
      exact bind_of_ok he
  | some f =>
      rw [Operation.outcome_of_some ((fault?_counted m o).trans hf)] at he
      exact bind_of_error he

theorem step_eq_ok_iff {m m' : Machine} :
    step m = .ok () m' ↔
      ∃ o, m.operation? = some o ∧ o.fault? m = none ∧ m' = m.completed o := by
  constructor
  · intro h
    cases ho : m.operation? with
    | none => rw [step_of_none ho] at h; cases h
    | some o =>
        rw [step_of_some ho] at h
        cases hf : o.fault? m with
        | none => rw [hf] at h; cases h; exact ⟨o, rfl, hf, rfl⟩
        | some f => rw [hf] at h; cases h
  · rintro ⟨o, ho, hf, rfl⟩
    rw [step_of_some ho, hf]

theorem step_eq_error_iff {m m' : Machine} {f : Fault} :
    step m = .error f m' ↔
      (m.operation? = none ∧ f = m.fetchFault ∧ m' = m) ∨
        ∃ o, m.operation? = some o ∧ o.fault? m = some f ∧ m' = o.residue m.counted := by
  constructor
  · intro h
    cases ho : m.operation? with
    | none => rw [step_of_none ho] at h; cases h; exact Or.inl ⟨rfl, rfl, rfl⟩
    | some o =>
        rw [step_of_some ho] at h
        cases hf : o.fault? m with
        | none => rw [hf] at h; cases h
        | some f' => rw [hf] at h; cases h; exact Or.inr ⟨o, rfl, hf, rfl⟩
  · rintro (⟨ho, rfl, rfl⟩ | ⟨o, ho, hf, rfl⟩)
    · exact step_of_none ho
    · rw [step_of_some ho, hf]

/-- The operation at the program counter is the one a successful step completed. -/
theorem completed_of_step {m m' : Machine} {o : Operation} (ho : m.operation? = some o)
    (h : step m = .ok () m') : o.fault? m = none ∧ m' = m.completed o := by
  obtain ⟨o', ho', hf, hm⟩ := step_eq_ok_iff.1 h
  obtain rfl : o = o' := Option.some.inj (ho.symm.trans ho')
  exact ⟨hf, hm⟩

/-! ## The end of a cycle -/

/-- A timer after a cycle. -/
def ticked (t : Int) : Int := if 0 < t then t - 1 else t

theorem tick_eq (m : Machine) :
    m.tick =
      { m with
        delay := ticked m.delay
        sound := ticked m.sound
        output := if 0 < m.sound then m.output.beep.2 else m.output
        stopRequested := m.stopRequested || (0 < m.sound && m.output.beep.1.run)
        eventSet := m.eventSet || (0 < m.sound && m.output.beep.1.event) } := by
  by_cases hs : 0 < m.sound <;> by_cases hd : 0 < m.delay <;>
    simp [tick, ticked, heed, Output.beep, hs, hd]

/-- Only the output device and what it asks for change when a frame is shown. -/
theorem shown_eq (o : Operation) (m : Machine) :
    o.shown m =
      { m with
        output := (o.shown m).output
        stopRequested := (o.shown m).stopRequested
        eventSet := (o.shown m).eventSet } := by
  cases o <;> rfl

theorem answer_emod (m : Machine) (o : Operation) :
    o.answer m % 65536 = o.target m % 65536 := by
  cases o with
  | ret | jumpOffset a => exact Int.emod_emod_of_dvd _ (Int.dvd_refl _)
  | _ => rfl

theorem completed_eq (m : Machine) (o : Operation) :
    m.completed o =
      { m with
        memory := o.memoryAfter m
        registers := o.registersAfter m
        calls := o.callsAfter m
        display := o.displayAfter m
        index := o.indexAfter m
        keys := o.keysAfter m
        random := o.randomAfter m
        pc := o.target m % 65536
        delay := ticked (o.delayAfter m)
        sound := ticked (o.soundAfter m)
        cycles := m.cycles + 1
        waitingForKey := o.target m % 65536 == m.pc && awaitsKey m.instruction
        statistics := m.counted.statistics
        journal := m.counted.journal
        output := (m.completed o).output
        stopRequested := (m.completed o).stopRequested
        eventSet := (m.completed o).eventSet } := by
  rw [completed, advance, tick_eq, Operation.effect, shown_eq, answer_emod]
  rfl

@[simp] theorem pc_completed (m : Machine) (o : Operation) :
    (m.completed o).pc = o.target m % 65536 := by
  rw [completed_eq]

@[simp] theorem calls_completed (m : Machine) (o : Operation) :
    (m.completed o).calls = o.callsAfter m := by
  rw [completed_eq]

@[simp] theorem memory_completed (m : Machine) (o : Operation) :
    (m.completed o).memory = o.memoryAfter m := by
  rw [completed_eq]

@[simp] theorem registers_completed (m : Machine) (o : Operation) :
    (m.completed o).registers = o.registersAfter m := by
  rw [completed_eq]

@[simp] theorem delay_completed (m : Machine) (o : Operation) :
    (m.completed o).delay = ticked (o.delayAfter m) := by
  rw [completed_eq]

@[simp] theorem sound_completed (m : Machine) (o : Operation) :
    (m.completed o).sound = ticked (o.soundAfter m) := by
  rw [completed_eq]

/-- An operation that fails leaves its trace in memory and registers alone. -/
theorem residue_eq (m : Machine) (o : Operation) :
    o.residue m =
      { m with
        memory := (o.residue m).memory
        registers := (o.residue m).registers } := by
  cases o <;> rfl

/-- A step that fails leaves its trace in memory, registers and what it noted alone. -/
theorem eq_of_step_error {m m' : Machine} {f : Fault} (h : step m = .error f m') :
    m' = { m with
      memory := m'.memory
      registers := m'.registers
      statistics := m'.statistics
      journal := m'.journal } := by
  rcases step_eq_error_iff.1 h with ⟨-, -, rfl⟩ | ⟨o, -, -, rfl⟩
  · rfl
  · rw [residue_eq]
    rfl

/-! ## The call stack after a cycle -/

theorem depth_lt_of_call {m : Machine} {a : Int}
    (hf : (Operation.call a).fault? m = none) : m.calls.depth < m.calls.capacity := by
  refine Decidable.byContradiction fun hfull => ?_
  rw [Operation.fault?, if_neg hfull] at hf
  cases hf

/-- A call leaves its own address as the newest frame, and nothing is cut off it. -/
theorem frames_callsAfter_call {m : Machine} {a : Int}
    (ho : m.operation? = some (.call a)) (hf : (Operation.call a).fault? m = none) :
    ∃ f : UInt16, ((Operation.call a).callsAfter m).frames = m.calls.frames ++ [f] ∧
      (f.toNat : Int) = m.pc := by
  obtain ⟨hpc, -⟩ := operation?_eq_some_iff.1 ho
  refine ⟨lowWord m.pc, CallStack.frames_pushed (depth_lt_of_call hf) m.pc, ?_⟩
  rw [lowWord_toNat]
  omega

theorem frames_callsAfter_ret {m : Machine} (hf : Operation.ret.fault? m = none) :
    (Operation.ret.callsAfter m).frames ++ [m.calls.newest] = m.calls.frames := by
  refine CallStack.frames_popped_append fun hempty => ?_
  rw [Operation.fault?, if_pos hempty] at hf
  cases hf

/-- A step enters a call, leaves one, or keeps away from the call stack. -/
theorem calls_of_step {m m' : Machine} (h : step m = .ok () m') :
    (∃ a f, m.operation? = some (.call a) ∧ (f.toNat : Int) = m.pc ∧
        m'.calls.frames = m.calls.frames ++ [f]) ∨
      (∃ f, m.operation? = some .ret ∧ m'.pc = ((f.toNat : Int) + 2) % 65536 ∧
        m.calls.frames = m'.calls.frames ++ [f]) ∨
      m'.calls = m.calls := by
  obtain ⟨o, ho, hf, rfl⟩ := step_eq_ok_iff.1 h
  rw [calls_completed, pc_completed]
  cases o with
  | call a =>
      obtain ⟨f, hframes, hsite⟩ := frames_callsAfter_call ho hf
      exact Or.inl ⟨a, f, ho, hsite, hframes⟩
  | ret => exact Or.inr (Or.inl ⟨_, ho, rfl, (frames_callsAfter_ret hf).symm⟩)
  | _ => exact Or.inr (Or.inr rfl)

/-! ## Steps that may fail -/

/-- The machine after a call of `step`, whether the call succeeded or not. -/
def attempt (m : Machine) : Machine :=
  match step m with
  | .ok _ m' => m'
  | .error _ m' => m'

theorem attempt_of_ok {m m' : Machine} (h : step m = .ok () m') : m.attempt = m' := by
  rw [attempt, h]

theorem attempt_of_error {m m' : Machine} {f : Fault} (h : step m = .error f m') :
    m.attempt = m' := by
  rw [attempt, h]

/-- A call completes an operation, is refused, or fails midway. -/
theorem attempt_cases (m : Machine) :
    (∃ o : Operation, m.operation? = some o ∧ o.fault? m = none ∧
        m.attempt = m.completed o) ∨
      m.attempt = m ∨ ∃ o : Operation, m.attempt = o.residue m.counted := by
  cases h : step m with
  | ok u m' =>
      obtain ⟨o, ho, hf, rfl⟩ := step_eq_ok_iff.1 h
      exact Or.inl ⟨o, ho, hf, attempt_of_ok h⟩
  | error f m' =>
      rw [attempt_of_error h]
      rcases step_eq_error_iff.1 h with ⟨-, -, rfl⟩ | ⟨o, -, -, rfl⟩
      · exact Or.inr (Or.inl rfl)
      · exact Or.inr (Or.inr ⟨o, rfl⟩)

/-! ## Machines that hold an image -/

theorem fits_table : Memory.Fits Image.memorySize Font.offset Font.table.length := by
  rw [Font.length_table]
  decide

theorem fits_image_iff {image : List UInt8} :
    Memory.Fits Image.memorySize Image.offset image.length ↔ image.length ≤ Image.maxSize := by
  simp only [Memory.Fits, Image.memorySize, Image.offset, Image.maxSize]
  omega

/-- Memory with the glyph table alone. -/
def bareMemory : Memory Image.memorySize :=
  (Memory.blank Image.memorySize).setAll Font.offset Font.table

/-- Memory with the glyph table and an image of any size that fits. -/
def initialMemory (image : List UInt8) : Memory Image.memorySize :=
  bareMemory.setAll Image.offset image

/-- The memory lets the table in, and the image as well if it passes the check in front. -/
theorem loadSegment_table :
    (Memory.blank Image.memorySize).loadSegment Font.offset Font.table = .ok bareMemory :=
  Memory.loadSegment_of_fits fits_table _

theorem loadSegment_image {image : List UInt8} (h : image.length ≤ Image.maxSize) :
    bareMemory.loadSegment Image.offset image = .ok (initialMemory image) :=
  Memory.loadSegment_of_fits (fits_image_iff.2 h) _

theorem loadImage_eq {image : List UInt8} (h : image.length ≤ Image.maxSize) :
    loadImage bareMemory image = .ok (initialMemory image) := by
  rw [loadImage, Image.check, if_pos h, loadSegment_image h]
  rfl

theorem loadImage_of_too_large {size : Nat} {image : List UInt8}
    (h : ¬image.length ≤ Image.maxSize) (memory : Memory size) :
    loadImage memory image = .error (.image (.tooLarge image.length)) := by
  rw [loadImage, Image.check, if_neg h]
  rfl

/-- What a machine is made of is the table in a memory without anything else, and the image
behind it. -/
theorem new_eq_map (image : List UInt8) (keys : KeyInput) (random : Random.Source)
    (output : Output) (rate : Number) :
    Machine.new image keys random output rate =
      (loadImage bareMemory image).map fun memory =>
        { memory, keys, random, output, rate } := by
  rw [Machine.new, loadSegment_table]
  show (loadImage bareMemory image >>= fun memory => pure _) = _
  cases loadImage bareMemory image <;> rfl

theorem new_eq {image : List UInt8} (h : image.length ≤ Image.maxSize) (keys : KeyInput)
    (random : Random.Source) (output : Output) (rate : Number) :
    Machine.new image keys random output rate =
      .ok { memory := initialMemory image, keys, random, output, rate } := by
  rw [new_eq_map, loadImage_eq h]
  rfl

/-! The cases worked out after the main results start from the machine below. -/

/-- A machine about to execute an image, with an index of its own and with devices
that do nothing. -/
def holding (image : List UInt8) (index : Int) : Machine where
  memory := initialMemory image
  index := index
  keys := .scripted [none]
  random := .rotating []
  output := .discarding
  rate := .whole 0

theorem get_initialMemory {image : List UInt8} (h : image.length ≤ Image.maxSize)
    {k : Nat} (hk : k < image.length) :
    (initialMemory image).get (Image.offset + k) = image.getD k 0 := by
  have hin : Image.offset + k < Image.memorySize := by
    rw [Image.maxSize] at h
    omega
  rw [initialMemory, Memory.get_setAll, if_pos ⟨by omega, by omega, hin⟩,
    Nat.add_sub_cancel_left]

/-- The word of a machine that stands at the `k`-th byte of its image. -/
theorem word_of_image {m : Machine} (image : List UInt8)
    (hm : m.memory = initialMemory image) (h : image.length ≤ Image.maxSize) (k : Nat)
    (hpc : m.pc = (Image.offset + k : Nat)) (hk : k + 1 < image.length) :
    m.word = (image.getD k 0).toNat * 256 + (image.getD (k + 1) 0).toNat := by
  rw [word, hm, hpc, Int.toNat_natCast, Memory.wordAt, get_initialMemory h (by omega),
    Nat.add_assoc, get_initialMemory h hk]

theorem word_holding {image : List UInt8} {index : Int}
    (h : image.length ≤ Image.maxSize) (hl : 1 < image.length) :
    (holding image index).word =
      (image.getD 0 0).toNat * 256 + (image.getD 1 0).toNat := by
  have hm : (holding image index).memory = initialMemory image := rfl
  rw [word_of_image image hm h 0 rfl hl]

end Machine

end ChipEight
