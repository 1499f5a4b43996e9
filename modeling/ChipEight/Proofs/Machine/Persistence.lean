import ChipEight.Proofs.Machine.Faults
import ChipEight.Proofs.Machine.Unread

/-!
# Whether a fault is final

Nothing is undone when a step fails, and nothing remembers that it did. Whoever calls
`step` again gets the same fault if the machine is still at the same word, because
what an instruction finds wrong is nothing that it changes before it fails: a block
that was stored or loaded in part is stored or loaded again, and is the same block.

What may have changed is the word itself. A store that runs into the end of memory
has put down the part that fits, and the instruction may be standing in that part.
Then the next call fetches what was stored. Decimal digits never make an instruction.
A row of registers makes whatever was in them, and unless that is one more block
instruction which runs over the same end, the fault was not final: the machine may
fail with another fault, store something else, or go on.

`fault_lasts_iff` is the exact condition. It is about the machine that the failing
step left, and it asks for no bounds.
-/

namespace ChipEight

namespace Memory

theorem fill_fill {size : Nat} (m : Memory size) (a : Int) (bs : List UInt8) :
    (m.fill a bs).fill a bs = m.fill a bs := by
  by_cases ha : 0 ≤ a
  · apply ext_get
    intro c _
    rw [get_fill ha, get_fill ha]
    split <;> rfl
  · rw [fill, if_neg ha, fill, if_neg ha]

end Memory

namespace Registers

theorem ext_get {r r' : Registers} (h : ∀ k, r.get k = r'.get k) : r = r' := by
  obtain ⟨cells⟩ := r
  obtain ⟨cells'⟩ := r'
  congr 1
  apply Vector.ext
  intro k hk
  exact h ⟨k, hk⟩

theorem setAll_setAll (r : Registers) {i : Nat} {bs : List UInt8} (h : i + bs.length ≤ 16) :
    (r.setAll i bs).setAll i bs = r.setAll i bs := by
  apply ext_get
  intro k
  rw [get_setAll _ bs h, get_setAll _ bs h]
  split <;> rfl

end Registers

namespace Machine

/-- Nothing became of a machine but that instructions were counted and noted. -/
def Recounted (m m' : Machine) : Prop :=
  m' = { m with statistics := m'.statistics, journal := m'.journal }

/-- However often the machine is stepped, it fails with this fault and stays as it is. -/
def Lasts (m : Machine) (f : Fault) : Prop :=
  ∀ k, (∃ n, step (attempt^[k] m) = .error f n) ∧ m.Recounted (attempt^[k] m)

/-- The machine is at a block instruction that runs past the end of memory. -/
def Overruns (m : Machine) : Prop :=
  ((Pattern.byte 0xF 0x55).Matches m.word ∨ (Pattern.byte 0xF 0x65).Matches m.word) ∧
    4095 < m.index + (m.word / 256 % 16 : Nat)

/-! ## Failing without a trace -/

theorem Recounted.refl (m : Machine) : m.Recounted m := rfl

theorem Recounted.trans {m n s : Machine} (h : m.Recounted n) (h' : n.Recounted s) :
    m.Recounted s := by
  rw [Recounted, h', h]

theorem recounted_residue {m : Machine} {o : Operation}
    (hm : o.memoryAfter m = m.memory) (hr : (o.residue m.counted).registers = m.registers) :
    m.Recounted (o.residue m.counted) := by
  rw [← memory_residue_eq] at hm
  rw [Recounted, residue_eq, hm, hr]
  rfl

/-- Machines that differ in what they counted fail alike. -/
theorem Recounted.step_error {m n m' : Machine} (h : m.Recounted n) {f : Fault}
    (hs : step m = .error f m') : ∃ n', step n = .error f n' ∧ m'.Recounted n' := by
  rw [h]
  rcases step_eq_error_iff.1 hs with ⟨ho, rfl, rfl⟩ | ⟨o, ho, hf, rfl⟩
  · exact ⟨_, step_eq_error_iff.2 (Or.inl ⟨ho, rfl, rfl⟩), rfl⟩
  · have hf' : o.fault? { m with statistics := n.statistics, journal := n.journal } =
        some f := by
      rw [← hf]
      cases o <;> rfl
    refine ⟨_, step_eq_error_iff.2 (Or.inr ⟨o, ho, hf', rfl⟩), ?_⟩
    cases o <;> rfl

/-- One failure that leaves no trace is as good as any number of them. -/
theorem lasts_iff {m : Machine} {f : Fault} :
    m.Lasts f ↔ ∃ n, step m = .error f n ∧ m.Recounted n := by
  constructor
  · intro h
    obtain ⟨⟨n, hs⟩, -⟩ := h 0
    obtain ⟨-, hn⟩ := h 1
    rw [Function.iterate_zero_apply] at hs
    rw [Function.iterate_one, attempt_of_error hs] at hn
    exact ⟨n, hs, hn⟩
  · rintro ⟨n, hs, hn⟩ k
    have hsame : m.Recounted (attempt^[k] m) := by
      induction k with
      | zero => exact .refl m
      | succ k ih =>
          obtain ⟨n', hs', hn'⟩ := ih.step_error hs
          rw [Function.iterate_succ_apply', attempt_of_error hs']
          exact hn.trans hn'
    obtain ⟨n', hs', -⟩ := hsame.step_error hs
    exact ⟨⟨n', hs'⟩, hsame⟩

/-! ## At the same word -/

/-- What a failing operation stored or loaded, it stores or loads again. -/
theorem recounted_residue_residue {m : Machine} {o : Operation} (ho : o.InRange) :
    (o.residue m.counted).Recounted (o.residue (o.residue m.counted).counted) := by
  refine recounted_residue ?_ ?_
  · rw [memory_residue_eq]
    cases o with
    | storeDigits x | storeRegisters x => exact Memory.fill_fill _ _ _
    | _ => rfl
  · cases o with
    | loadRegisters x =>
        have hx : IsNibble x := ho
        have hl : 0 + (m.memory.block m.index (x + 1).toNat).length ≤ 16 := by
          have := hx.2
          rw [Memory.block]
          split
          · rw [Memory.length_span]
            omega
          · exact Nat.zero_le _
        exact Registers.setAll_setAll m.registers hl
    | _ => rfl

/-- A step that left the word in place fails again. -/
theorem lasts_of_word_eq {m m' : Machine} {f : Fault} (h : step m = .error f m')
    (hw : m'.word = m.word) : m'.Lasts f := by
  rw [lasts_iff]
  rcases step_eq_error_iff.1 h with ⟨-, -, rfl⟩ | ⟨o, ho, hf, rfl⟩
  · exact ⟨m', h, .refl m'⟩
  · obtain ⟨hpc, hp, hc⟩ := operation?_eq_some_iff.1 ho
    have hpc' : (o.residue m.counted).pc = m.pc := by
      rw [residue_eq]
      rfl
    have ho' : (o.residue m.counted).operation? = some o :=
      operation?_of_matches (by rwa [hpc']) (by rwa [hw]) (by rwa [hw])
    have hf' : o.fault? (o.residue m.counted) = some f := by
      rw [← hf]
      cases o <;> rfl
    exact ⟨_, step_eq_error_iff.2 (Or.inr ⟨o, ho', hf', rfl⟩),
      recounted_residue_residue (inRange_of_operation? ho)⟩

/-! ## At a word that was stored -/

theorem word_mod (m : Machine) :
    m.word % 256 = (m.memory.get (m.pc.toNat + 1)).toNat := by
  have := (m.memory.get (m.pc.toNat + 1)).toNat_lt
  rw [word, Memory.wordAt]
  omega

theorem word_div (m : Machine) : m.word / 256 = (m.memory.get m.pc.toNat).toNat := by
  have := (m.memory.get (m.pc.toNat + 1)).toNat_lt
  rw [word, Memory.wordAt]
  omega

/-- A call that changes the word has stored a byte of it. -/
theorem exists_writes_of_word_ne {m : Machine} (hpc : m.attempt.pc = m.pc)
    (h : m.attempt.word ≠ m.word) :
    ∃ a, (a = m.pc.toNat ∨ a = m.pc.toNat + 1) ∧ m.Writes a := by
  by_cases hhigh : m.attempt.memory.get m.pc.toNat = m.memory.get m.pc.toNat
  · refine ⟨m.pc.toNat + 1, Or.inr rfl, writes_of_changed fun hlow => h ?_⟩
    rw [word, word, hpc, Memory.wordAt, Memory.wordAt, hhigh, hlow]
  · exact ⟨m.pc.toNat, Or.inl rfl, writes_of_changed hhigh⟩

/-- The two ways to store over one's own word and then over the end of memory. -/
inductive Overwrites (m : Machine) : Operation → Prop where
  | digits (hw : (Pattern.byte 0xF 0x33).Matches m.word)
      (hi : 4093 < m.index ∧ m.index ≤ m.pc + 1) :
      Overwrites m (.storeDigits (m.word / 256 % 16 : Nat))
  | row (hw : (Pattern.byte 0xF 0x55).Matches m.word)
      (hi : 0 ≤ m.index ∧ m.index ≤ m.pc + 1)
      (hout : 4095 < m.index + (m.word / 256 % 16 : Nat)) :
      Overwrites m (.storeRegisters (m.word / 256 % 16 : Nat))

theorem overwrites_of_word_ne {m m' : Machine} {f : Fault} (h : step m = .error f m')
    (hne : m'.word ≠ m.word) :
    (0 ≤ m.pc ∧ m.pc ≤ 4094) ∧ f = .outOfBounds 4096 ∧
      ∃ o, m.Overwrites o ∧ m' = o.residue m.counted := by
  have hattempt := attempt_of_error h
  have hpc : m.attempt.pc = m.pc := by rw [hattempt, eq_of_step_error h]
  obtain ⟨a, ha, hfits, ⟨hi, -⟩, hstores⟩ :=
    exists_writes_of_word_ne hpc (by rwa [hattempt])
  have hpc := fits_pc_iff.1 hfits
  rcases step_eq_error_iff.1 h with ⟨-, -, rfl⟩ | ⟨o, ho, hf, hm'⟩
  · exact absurd rfl hne
  -- the index is not beyond the word, so the first address outside is the end of memory
  have hfault : ∀ count : Nat, Memory.blockFault? Image.memorySize m.index count = some f →
      m.index ≤ m.pc + 1 → f = .outOfBounds 4096 ∧ 4096 < m.index + count := by
    intro count hcount hle
    obtain ⟨⟨-, hout⟩, rfl⟩ := (Memory.blockFault?_eq_some_iff hi).1 hcount
    have hmax : max m.index (Image.memorySize : Nat) = 4096 := by
      rw [Image.memorySize]
      omega
    exact ⟨congrArg Fault.outOfBounds hmax, hout⟩
  cases hstores with
  | digits hw hin =>
      obtain rfl := eq_of_matches ho (.storeDigits (m.word / 256 % 16 : Nat)) hw rfl
      obtain ⟨rfl, hout⟩ := hfault 3 hf (by omega)
      exact ⟨hpc, rfl, _, .digits hw (by omega), hm'⟩
  | row hw hin =>
      obtain rfl := eq_of_matches ho (.storeRegisters (m.word / 256 % 16 : Nat)) hw rfl
      obtain ⟨rfl, hout⟩ := hfault _ hf (by omega)
      exact ⟨hpc, rfl, _, .row hw (by omega) (by omega), hm'⟩

theorem word_eq_of_low {m m' : Machine} {f : Fault} (h : step m = .error f m')
    (hlow : m.pc < 4080) : m'.word = m.word := by
  refine Decidable.byContradiction fun hne => ?_
  obtain ⟨-, -, o, ho, -⟩ := overwrites_of_word_ne h hne
  cases ho with
  | digits hw hi => omega
  | row hw hi hout => omega

/-! ### Digits -/

theorem toNat_lowByte_le {v : Int} {n : Nat} (h : 0 ≤ v ∧ v ≤ n) (hn : n ≤ 255) :
    (lowByte v).toNat ≤ n := by
  have := lowByte_toNat v
  omega

theorem toNat_hundreds_le (v : UInt8) :
    (((digits v).map lowByte).getD 0 0).toNat ≤ 2 := by
  have hv := byteValue_range v
  exact toNat_lowByte_le (n := 2) (by omega) (by decide)

theorem toNat_digit_le (v : UInt8) (k : Nat) :
    (((digits v).map lowByte).getD k 0).toNat ≤ 9 := by
  have hv := byteValue_range v
  match k with
  | 0 | 1 | 2 => exact toNat_lowByte_le (n := 9) (by omega) (by decide)
  | k + 3 => exact Nat.zero_le _

/-- No instruction is written with small digits in both places, and none of the last
family with so small a digit at its end. -/
theorem not_isInstruction_of_digits {w : Nat}
    (h : w / 4096 = 0 ∧ w % 256 ≤ 9 ∨ w / 4096 = 15 ∧ w % 256 ≤ 2) :
    ¬ IsInstruction w := by
  simp only [IsInstruction, Pattern.table, List.mem_cons, List.not_mem_nil, or_false,
    exists_eq_or_imp, exists_eq_left, Pattern.Matches]
  omega

theorem get_residue_storeDigits {m : Machine} {x : Int} (hi : 4093 < m.index) {a : Nat}
    (ha : m.index ≤ a ∧ a < 4096) :
    ((Operation.storeDigits x).residue m.counted).memory.get a =
      ((digits (m.registers.named x)).map lowByte).getD (a - m.index.toNat) 0 := by
  have hl : ((digits (m.registers.named x)).map lowByte).length = 3 := rfl
  rw [memory_residue_eq]
  refine (get_fill_of_out (by omega) hl (by omega) ha.2).trans ?_
  rw [if_pos (by omega)]

section

variable {m : Machine} {x : Int} (hpc : 0 ≤ m.pc ∧ m.pc ≤ 4094)
  (hi : 4093 < m.index ∧ m.index ≤ m.pc + 1)

include hpc hi

theorem word_mod_residue_storeDigits :
    ((Operation.storeDigits x).residue m.counted).word % 256 ≤ 9 := by
  have hpc' : ((Operation.storeDigits x).residue m.counted).pc = m.pc := rfl
  rw [word_mod, hpc', get_residue_storeDigits hi.1 (by omega)]
  exact toNat_digit_le _ _

/-- Where digits were stored over their own instruction, there is no instruction. -/
theorem operation?_residue_storeDigits (hw : (Pattern.byte 0xF 0x33).Matches m.word) :
    ((Operation.storeDigits x).residue m.counted).operation? = none := by
  obtain ⟨n, hn⟩ : ∃ n, n = (Operation.storeDigits x).residue m.counted := ⟨_, rfl⟩
  have hpc' : n.pc = m.pc := by rw [hn]; rfl
  have hlow := word_mod_residue_storeDigits (x := x) hpc hi
  have hget : ∀ a : Nat, m.index ≤ a ∧ a < 4096 → n.memory.get a =
      ((digits (m.registers.named x)).map lowByte).getD (a - m.index.toNat) 0 := by
    intro a ha
    rw [hn]
    exact get_residue_storeDigits hi.1 ha
  have hfirst := toNat_hundreds_le (m.registers.named x)
  rw [← hn] at hlow ⊢
  have hnot : ¬ IsInstruction n.word := by
    refine not_isInstruction_of_digits ?_
    -- both bytes were stored, or the low one alone
    by_cases hin : m.index ≤ m.pc
    · have hhigh := n.word_div
      rw [hpc', hget _ (by omega), show m.pc.toNat - m.index.toNat = 0 by omega] at hhigh
      exact Or.inl ⟨by omega, hlow⟩
    · have hbefore : n.memory.get m.pc.toNat = m.memory.get m.pc.toNat := by
        rw [hn, memory_residue_eq, Operation.memoryAfter, Memory.get_fill (by omega),
          if_neg (by omega)]
      have hhigh := n.word_div
      have hend := n.word_mod
      rw [hpc', hbefore, ← word_div] at hhigh
      rw [hpc', hget _ (by omega),
        show m.pc.toNat + 1 - m.index.toNat = 0 by omega] at hend
      have htop : m.word / 4096 = 15 := hw.1
      exact Or.inr ⟨by omega, by omega⟩
  rw [Option.eq_none_iff_forall_not_mem]
  intro o ho
  exact hnot ((isInstruction_word_iff (by rwa [hpc'])).2 ⟨o, ho⟩)

end

/-! ### A row of registers -/

/-- From the index to the end, the memory holds what the registers do. -/
def HoldsRow (m : Machine) : Prop :=
  ∀ a : Nat, m.index ≤ a ∧ a < 4096 →
    m.memory.get a = m.registers.named (a - m.index.toNat : Nat)

theorem holdsRow_residue {m : Machine} {x : Int}
    (hi : 0 ≤ m.index ∧ 4096 < m.index + (x + 1).toNat) :
    HoldsRow ((Operation.storeRegisters x).residue m.counted) := by
  intro a ha
  have ha : m.index ≤ a ∧ a < 4096 := ha
  rw [memory_residue_eq]
  refine (get_fill_of_out hi.1 (Registers.length_span _ _ _) hi.2 ha.2).trans ?_
  rw [if_pos (by omega), Registers.getD_span _ (by omega), Nat.zero_add]
  rfl

section

variable {m : Machine} (hpc : 0 ≤ m.pc ∧ m.pc ≤ 4094)
  (hi : 0 ≤ m.index ∧ m.index ≤ m.pc + 1)

include hpc hi

/-- Where the row is in place, storing and loading it both fail without a trace. -/
theorem exists_step_of_overruns (hrow : m.HoldsRow) (h : m.Overruns) :
    ∃ n, step m = .error (.outOfBounds 4096) n ∧ m.Recounted n := by
  obtain ⟨hw, hout⟩ := h
  have hmax : max m.index 4096 = 4096 := by omega
  have hf : Memory.blockFault? Image.memorySize m.index
      ((m.word / 256 % 16 : Nat) + 1 : Int).toNat = some (.outOfBounds 4096) := by
    refine (Memory.blockFault?_eq_some_iff hi.1).2 ⟨⟨by omega, ?_⟩, ?_⟩
    · rw [Image.memorySize]
      omega
    · exact (congrArg Fault.outOfBounds hmax).symm
  rcases hw with hw | hw
  · have ho := operation?_of_matches (o := .storeRegisters (m.word / 256 % 16 : Nat))
      hpc hw rfl
    refine ⟨_, step_eq_error_iff.2 (Or.inr ⟨_, ho, hf, rfl⟩), recounted_residue ?_ rfl⟩
    apply Memory.ext_get
    intro a ha
    have ha : a < 4096 := ha
    refine (get_fill_of_out hi.1 (Registers.length_span _ _ _) (by omega) ha).trans ?_
    split
    · next hin =>
        rw [Registers.getD_span _ (by omega), Nat.zero_add, hrow a ⟨by omega, ha⟩]
    · rfl
  · have ho := operation?_of_matches (o := .loadRegisters (m.word / 256 % 16 : Nat))
      hpc hw rfl
    refine ⟨_, step_eq_error_iff.2 (Or.inr ⟨_, ho, hf, rfl⟩), recounted_residue rfl ?_⟩
    apply Registers.ext_get
    intro k
    refine (get_setAll_of_out hi.1 (by omega) (by omega) k).trans ?_
    split
    · next hin =>
        rw [hrow _ ⟨by omega, hin⟩, Nat.add_sub_cancel_left]
        exact congrArg m.registers.get (Fin.ext (Registers.place_val_of_lt k.isLt))
    · rfl

/-- Nothing else fails like that there. Storing digits would leave a trace: the low byte
of the word would be one of them. -/
theorem overruns_of_step {n : Machine} (h : step m = .error (.outOfBounds 4096) n)
    (hn : m.Recounted n) : m.Overruns := by
  rcases step_eq_error_iff.1 h with ⟨-, hf, -⟩ | ⟨o, ho, hf, rfl⟩
  · rw [fetchFault, if_pos (fits_pc_iff.2 hpc)] at hf
    cases hf
  · obtain ⟨-, hw, hc⟩ := operation?_eq_some_iff.1 ho
    cases o with
    | call a | ret =>
        rw [Operation.fault?] at hf
        split at hf <;> cases hf
    | draw x y r =>
        rw [Operation.fault?] at hf
        split at hf
        · cases hf
        · have he : m.index = 4096 := Fault.outOfBounds.inj (Option.some.inj hf)
          omega
    | storeDigits x =>
        obtain ⟨⟨-, hout⟩, -⟩ := (Memory.blockFault?_eq_some_iff hi.1).1 hf
        rw [Image.memorySize] at hout
        have hlow := word_mod_residue_storeDigits (x := x) hpc ⟨by omega, hi.2⟩
        have hsame : ((Operation.storeDigits x).residue m.counted).word = m.word := by
          rw [hn]
          rfl
        rw [hsame, hw.2] at hlow
        omega
    | storeRegisters x =>
        obtain rfl := hc
        obtain ⟨⟨-, hout⟩, -⟩ := (Memory.blockFault?_eq_some_iff hi.1).1 hf
        rw [Image.memorySize] at hout
        exact ⟨Or.inl hw, by omega⟩
    | loadRegisters x =>
        obtain rfl := hc
        obtain ⟨⟨-, hout⟩, -⟩ := (Memory.blockFault?_eq_some_iff hi.1).1 hf
        rw [Image.memorySize] at hout
        exact ⟨Or.inr hw, by omega⟩
    | _ => cases hf

end

/-! ## The condition -/

theorem lasts_iff_of_word_ne {m m' : Machine} {f : Fault} (h : step m = .error f m')
    (hne : m'.word ≠ m.word) : m'.Lasts f ↔ m'.Overruns := by
  obtain ⟨hpc, rfl, o, ho, hm'⟩ := overwrites_of_word_ne h hne
  have hpc' : m'.pc = m.pc := by rw [eq_of_step_error h]
  have hindex' : m'.index = m.index := by rw [eq_of_step_error h]
  have hin : 0 ≤ m'.pc ∧ m'.pc ≤ 4094 := by rwa [hpc']
  cases ho with
  | digits hw hi =>
      -- neither side holds: the next step finds no instruction, and no block ends in 9
      have hnone := operation?_residue_storeDigits
        (x := (m.word / 256 % 16 : Nat)) hpc hi hw
      have hlow := word_mod_residue_storeDigits (x := (m.word / 256 % 16 : Nat)) hpc hi
      rw [← hm'] at hnone hlow
      constructor
      · intro hlasts
        obtain ⟨n, hs, -⟩ := lasts_iff.1 hlasts
        rw [step_of_none hnone, fetchFault, if_pos (fits_pc_iff.2 hin)] at hs
        cases hs
      · rintro ⟨⟨-, hw'⟩ | ⟨-, hw'⟩, -⟩ <;> omega
  | row hw hi hout =>
      have hi' : 0 ≤ m'.index ∧ m'.index ≤ m'.pc + 1 := by rwa [hpc', hindex']
      have hrow : m'.HoldsRow := by
        rw [hm']
        exact holdsRow_residue ⟨hi.1, by omega⟩
      rw [lasts_iff]
      constructor
      · rintro ⟨n, hs, hn⟩
        exact overruns_of_step hin hi' hs hn
      · exact exists_step_of_overruns hin hi' hrow

/-- A fault is final where the failing step left its own word in place, and where it
stored a block instruction there that runs over the same end of memory. Nowhere else. -/
theorem fault_lasts_iff {m m' : Machine} {f : Fault} (h : step m = .error f m') :
    m'.Lasts f ↔ m'.word = m.word ∨ m'.Overruns := by
  by_cases hw : m'.word = m.word
  · exact iff_of_true (lasts_of_word_eq h hw) (Or.inl hw)
  · rw [lasts_iff_of_word_ne h hw, or_iff_right hw]

/-- A row that is stored at the last address, by an instruction far below it. -/
theorem fault_lasts_iff_far :
    ∃ m m' : Machine, m = holding [0xF1, 0x55] 4095 ∧
      step m = .error (.outOfBounds 4096) m' ∧ m'.Lasts (.outOfBounds 4096) := by
  have hw : (holding [0xF1, 0x55] 4095).word = 0xF155 :=
    word_holding (by decide) (by decide)
  have ho : (holding [0xF1, 0x55] 4095).operation? = some (.storeRegisters 1) :=
    operation?_of_matches (by decide) (by rw [hw]; decide) (by rw [hw]; rfl)
  have hs := step_eq_error_iff.2 (Or.inr ⟨_, ho, rfl, rfl⟩)
  exact ⟨_, _, rfl, hs, (fault_lasts_iff hs).2 (Or.inl (word_eq_of_low hs (by decide)))⟩

/-! ### A fault that passes -/

/-- An image that fills the memory. It loads a register, points the index at its own
last word and jumps there; the last word stores three registers. -/
def overwriting : List UInt8 :=
  (List.replicate 448 [0x60, 0x12, 0xAF, 0xFE, 0x1F, 0xFE, 0xF2, 0x55]).flatten

theorem length_overwriting : overwriting.length = 3584 := by decide +kernel

theorem word_overwriting {m : Machine} (hm : m.memory = initialMemory overwriting)
    (k : Nat) (hpc : m.pc = (Image.offset + k : Nat)) (hk : k + 1 < 3584) :
    m.word = (overwriting.getD k 0).toNat * 256 + (overwriting.getD (k + 1) 0).toNat := by
  have hl := length_overwriting
  refine word_of_image _ hm ?_ k hpc (by omega)
  rw [hl]
  decide

/-- Three steps lead to the last word. -/
theorem overwriting_leads {m : Machine} (hm : m.memory = initialMemory overwriting)
    (hpc : m.pc = 0x200) (hr : m.registers = .zero) :
    ∃ m₁ m₂ m₃, step m = .ok () m₁ ∧ step m₁ = .ok () m₂ ∧ step m₂ = .ok () m₃ ∧
      m₃.memory = initialMemory overwriting ∧ m₃.pc = 0xFFE ∧ m₃.index = 0xFFE ∧
      m₃.registers = Registers.zero.set 0 0x12 := by
  have hw : m.word = 0x6012 := word_overwriting hm 0 hpc (by decide)
  have ho : m.operation? = some (.loadByte 0 0x12) :=
    operation?_of_matches (by omega) (by rw [hw]; decide) (by rw [hw]; exact ⟨rfl, rfl⟩)
  obtain ⟨m₁, hm₁⟩ : ∃ m₁, m₁ = m.completed (.loadByte 0 0x12) := ⟨_, rfl⟩
  have hs : step m = .ok () m₁ := step_eq_ok_iff.2 ⟨_, ho, rfl, hm₁⟩
  rw [completed_eq] at hm₁
  have hpc₁ : m₁.pc = 0x202 := by
    rw [hm₁]
    show (m.pc + 2) % 65536 = _
    rw [hpc]
    rfl
  have hmem₁ : m₁.memory = initialMemory overwriting := by rw [hm₁, ← hm]; rfl
  have hreg₁ : m₁.registers = Registers.zero.set 0 0x12 := by rw [hm₁, ← hr]; rfl
  have hw₁ : m₁.word = 0xAFFE := word_overwriting hmem₁ 2 hpc₁ (by decide)
  have ho₁ : m₁.operation? = some (.loadIndex 0xFFE) :=
    operation?_of_matches (by omega) (by rw [hw₁]; decide) (by rw [hw₁]; rfl)
  obtain ⟨m₂, hm₂⟩ : ∃ m₂, m₂ = m₁.completed (.loadIndex 0xFFE) := ⟨_, rfl⟩
  have hs₁ : step m₁ = .ok () m₂ := step_eq_ok_iff.2 ⟨_, ho₁, rfl, hm₂⟩
  rw [completed_eq] at hm₂
  have hpc₂ : m₂.pc = 0x204 := by
    rw [hm₂]
    show (m₁.pc + 2) % 65536 = _
    rw [hpc₁]
    rfl
  have hmem₂ : m₂.memory = initialMemory overwriting := by rw [hm₂, ← hmem₁]; rfl
  have hw₂ : m₂.word = 0x1FFE := word_overwriting hmem₂ 4 hpc₂ (by decide)
  have ho₂ : m₂.operation? = some (.jump 0xFFE) :=
    operation?_of_matches (by omega) (by rw [hw₂]; decide) (by rw [hw₂]; rfl)
  refine ⟨m₁, m₂, _, hs, hs₁, step_eq_ok_iff.2 ⟨_, ho₂, rfl, rfl⟩, ?_⟩
  rw [completed_eq]
  refine ⟨hmem₂, rfl, ?_, ?_⟩
  · show m₂.index = _
    rw [hm₂]
    rfl
  · show m₂.registers = _
    rw [hm₂, ← hreg₁]
    rfl

/-- The last word runs over the end of memory, and that is reported. But what it has
stored over itself is a jump to the start, and the next step takes it. -/
theorem fault_passes :
    ∃ m m' n : Machine,
      Machine.new overwriting (.scripted [none]) (.rotating []) .discarding (.whole 0) =
        .ok m ∧
      (∀ i < 3, ∃ s, step (attempt^[i] m) = .ok () s) ∧
      step (attempt^[3] m) = .error (.outOfBounds 4096) m' ∧
      step m' = .ok () n ∧ n.pc = 0x200 ∧ ¬ m'.Lasts (.outOfBounds 4096) := by
  have hl : overwriting.length ≤ Image.maxSize := by
    rw [length_overwriting]
    decide
  obtain ⟨m, hm⟩ : ∃ m : Machine, m =
    { memory := initialMemory overwriting, keys := .scripted [none]
      random := .rotating [], output := .discarding, rate := .whole 0 } := ⟨_, rfl⟩
  have hnew := new_eq hl (.scripted [none]) (.rotating []) .discarding (.whole 0)
  rw [← hm] at hnew
  obtain ⟨m₁, m₂, m₃, hs, hs₁, hs₂, hmem, hpc, hindex, hreg⟩ :=
    overwriting_leads (m := m) (by rw [hm]) (by rw [hm]; rfl) (by rw [hm])
  have hone : attempt^[1] m = m₁ := by rw [Function.iterate_one, attempt_of_ok hs]
  have htwo : attempt^[2] m = m₂ := by
    rw [Function.iterate_succ_apply', hone, attempt_of_ok hs₁]
  have hthree : attempt^[3] m = m₃ := by
    rw [Function.iterate_succ_apply', htwo, attempt_of_ok hs₂]
  have hw : m₃.word = 0xF255 := by
    rw [word_overwriting hmem 3582 hpc (by decide)]
    decide +kernel
  have ho : m₃.operation? = some (.storeRegisters 2) :=
    operation?_of_matches (by omega) (by rw [hw]; decide) (by rw [hw]; rfl)
  have hf : (Operation.storeRegisters 2).fault? m₃ = some (.outOfBounds 4096) := by
    rw [Operation.fault?, hindex]
    rfl
  have hs₃ := step_eq_error_iff.2 (Or.inr ⟨_, ho, hf, rfl⟩)
  have hrow : HoldsRow ((Operation.storeRegisters 2).residue m₃.counted) :=
    holdsRow_residue (by rw [hindex]; decide)
  obtain ⟨m', hm'⟩ : ∃ m', m' = (Operation.storeRegisters 2).residue m₃.counted := ⟨_, rfl⟩
  rw [← hm'] at hs₃ hrow
  have hpc' : m'.pc = 0xFFE := by rw [hm', ← hpc]; rfl
  have hindex' : m'.index = 0xFFE := by rw [hm', ← hindex]; rfl
  have hreg' : m'.registers = Registers.zero.set 0 0x12 := by rw [hm', ← hreg]; rfl
  have hw' : m'.word = 0x1200 := by
    rw [word, hpc', Memory.wordAt, hrow _ (by rw [hindex']; decide),
      hrow _ (by rw [hindex']; decide), hreg', hindex']
    decide
  have ho' : m'.operation? = some (.jump 0x200) :=
    operation?_of_matches (by omega) (by rw [hw']; decide) (by rw [hw']; rfl)
  have hs' := step_eq_ok_iff.2 ⟨_, ho', rfl, rfl⟩
  refine ⟨m, m', _, hnew, ?_, ?_, hs', ?_, ?_⟩
  · intro i hi
    obtain rfl | rfl | rfl : i = 0 ∨ i = 1 ∨ i = 2 := by omega
    · exact ⟨m₁, hs⟩
    · exact ⟨m₂, by rw [hone, hs₁]⟩
    · exact ⟨m₃, by rw [htwo, hs₂]⟩
  · rw [hthree, hs₃]
  · rw [pc_completed]
    rfl
  · intro hlasts
    obtain ⟨⟨s, herror⟩, -⟩ := hlasts 0
    rw [Function.iterate_zero_apply, hs'] at herror
    cases herror

end Machine

end ChipEight
