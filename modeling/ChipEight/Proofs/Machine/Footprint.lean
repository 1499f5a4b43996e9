import ChipEight.Proofs.Machine.Bounds

/-!
# What a step may touch

A step that succeeds changes few things, and the word at the program counter
says which. This file is that table read the other way round: not what an
instruction does to the component it is for, but which words could have been the
reason when a component is found changed. Whatever is not listed stays.

The lists are by pattern and not by operation, so that they can be compared with
a reference card of the instruction set. Two of them depend on data. The block
operations reach as far as their second digit says, and the second digit may also
name the flag register, in which case one register is the destination and the
flag at once.

No bound on the machine is assumed. A step that succeeds has found its word and
its block inside the memory, and that is all the arithmetic needs. The one place
where an address is cut is a return: a frame that was put on the stack by hand
may be too high to add two to it. A frame that a call has left there never is.
-/

namespace ChipEight

namespace Memory

theorem fits_of_blockFault?_eq_none {size : Nat} {a : Int} {count : Nat}
    (hc : count ≠ 0) (h : blockFault? size a count = none) : Fits size a count := by
  rw [blockFault?] at h
  split at h
  · next hfits => exact hfits.resolve_left hc
  · cases h

/-- A block store that fits changes nothing outside its block. -/
theorem inside_of_get_fill_ne {size : Nat} {m : Memory size} {i : Int} {bs : List UInt8}
    {a : Nat} (hi : 0 ≤ i) (h : (m.fill i bs).get a ≠ m.get a) :
    i ≤ a ∧ a < i + bs.length := by
  rw [get_fill hi] at h
  split at h
  · next hin => omega
  · exact absurd rfl h

end Memory

namespace Registers

theorem eq_of_get_set_ne {r : Registers} {i k : Fin 16} {b : UInt8}
    (h : (r.set i b).get k ≠ r.get k) : i = k := by
  rw [get_set] at h
  split at h
  · next hik => exact hik
  · exact absurd rfl h

theorem lt_of_get_setAll_ne {r : Registers} {bs : List UInt8} (hl : bs.length ≤ 16)
    {k : Fin 16} (h : (r.setAll 0 bs).get k ≠ r.get k) : k < bs.length := by
  rw [get_setAll r bs (by omega)] at h
  split at h
  · next hin => omega
  · exact absurd rfl h

end Registers

theorem Arithmetic.selector_of_flag? {f : Arithmetic} {a b : UInt8}
    (h : f.flag? a b ≠ none) : f.selector ∈ [0x4, 0x5, 0x6, 0x7, 0xE] := by
  cases f with
  | copy | or | and | xor => exact absurd rfl h
  | add | sub | shiftRight | subFrom | shiftLeft => decide

namespace Pattern

/-- The words that skip, or do not skip, the instruction behind them. -/
def skips : List Pattern :=
  [family 0x3, family 0x4, family 0x5, family 0x9, byte 0xE 0x9E, byte 0xE 0xA1]

/-- The words that say themselves where to go on. -/
def jumps : List Pattern := [family 0x1, family 0x2, family 0xB, byte 0x0 0xEE]

/-- The words that set the index. -/
def indexing : List Pattern :=
  [family 0xA, byte 0xF 0x1E, byte 0xF 0x29, byte 0xF 0x65]

/-- The words that set the register their second digit names, come what may. -/
def setting : List Pattern :=
  [family 0x6, family 0x7, family 0x8, family 0xC, byte 0xF 0x07]

end Pattern

theorem Condition.pattern_mem_skips (c : Condition) : c.pattern ∈ Pattern.skips := by
  cases c <;> simp [Condition.pattern, Pattern.skips]

namespace Machine

/-- The addresses at which the next step may store: three of them for the digits
of a register, and for a row of registers as many as there are in the row. -/
inductive StoresAt (m : Machine) (a : Nat) : Prop where
  | digits (hw : (Pattern.byte 0xF 0x33).Matches m.word)
      (ha : m.index ≤ a ∧ a ≤ m.index + 2)
  | row (hw : (Pattern.byte 0xF 0x55).Matches m.word)
      (ha : m.index ≤ a ∧ a ≤ m.index + (m.word / 256 % 16 : Nat))

/-- The registers that the next step may set. The register that the second digit
names comes first, with and without a condition, then the flag, then a row. -/
inductive Sets (m : Machine) (k : Nat) : Prop where
  | named (hk : k = m.word / 256 % 16)
      (hw : ∃ p ∈ Pattern.setting, p.Matches m.word)
  | key (hk : k = m.word / 256 % 16) (hw : (Pattern.byte 0xF 0x0A).Matches m.word)
      (held : m.keys.poll.1 ≠ none)
  | carry (hk : k = 15) (hw : (Pattern.family 0x8).Matches m.word)
      (hn : m.word % 16 ∈ [0x4, 0x5, 0x6, 0x7, 0xE])
  | collision (hk : k = 15) (hw : (Pattern.family 0xD).Matches m.word)
  | row (hk : k ≤ m.word / 256 % 16) (hw : (Pattern.byte 0xF 0x65).Matches m.word)

/-- What a successful step did at most, and where it went. -/
structure Footprint (m m' : Machine) : Prop where
  memory : ∀ a, m'.memory.get a ≠ m.memory.get a → m.StoresAt a
  registers : ∀ k : Fin 16, m'.registers.get k ≠ m.registers.get k → m.Sets k
  index : m'.index ≠ m.index → ∃ p ∈ Pattern.indexing, p.Matches m.word
  call : (Pattern.family 0x2).Matches m.word →
    ∃ f : UInt16, m'.calls.frames = m.calls.frames ++ [f] ∧ (f.toNat : Int) = m.pc
  ret : (Pattern.byte 0x0 0xEE).Matches m.word →
    ∃ f : UInt16, m.calls.frames = m'.calls.frames ++ [f] ∧
      m'.pc = ((f.toNat : Int) + 2) % 65536 ∧
      (f.toNat ≤ 0xFFFD → m'.pc = (f.toNat : Int) + 2)
  calls : ¬ (Pattern.family 0x2).Matches m.word →
    ¬ (Pattern.byte 0x0 0xEE).Matches m.word → m'.calls = m.calls
  display : ¬ (Pattern.byte 0x0 0xE0).Matches m.word →
    ¬ (Pattern.family 0xD).Matches m.word → m'.display = m.display
  delay : m'.delay = ticked (if (Pattern.byte 0xF 0x15).Matches m.word then
    byteValue (m.registers.named (m.word / 256 % 16 : Nat)) else m.delay)
  sound : m'.sound = ticked (if (Pattern.byte 0xF 0x18).Matches m.word then
    byteValue (m.registers.named (m.word / 256 % 16 : Nat)) else m.sound)
  jump : (Pattern.family 0x1).Matches m.word ∨ (Pattern.family 0x2).Matches m.word →
    m'.pc = (m.word % 4096 : Nat)
  offset : (Pattern.family 0xB).Matches m.word →
    m'.pc = (m.word % 4096 : Nat) + byteValue (m.registers.named 0)
  wait : (Pattern.byte 0xF 0x0A).Matches m.word → m.keys.poll.1 = none → m'.pc = m.pc
  skip : (∃ p ∈ Pattern.skips, p.Matches m.word) → m'.pc = m.pc + 2 ∨ m'.pc = m.pc + 4
  onward : (∀ p ∈ Pattern.jumps ++ Pattern.skips, ¬ p.Matches m.word) →
    ((Pattern.byte 0xF 0x0A).Matches m.word → m.keys.poll.1 ≠ none) → m'.pc = m.pc + 2

/-! ## Memory, registers, index -/

theorem storesAt_of_ne {m : Machine} {o : Operation} (ho : m.operation? = some o)
    (hf : o.fault? m = none) {a : Nat}
    (h : (o.memoryAfter m).get a ≠ m.memory.get a) : m.StoresAt a := by
  obtain ⟨-, hm, hc⟩ := operation?_eq_some_iff.1 ho
  cases o with
  | storeDigits x =>
      have hfits := Memory.fits_of_blockFault?_eq_none (by decide) hf
      have hin := Memory.inside_of_get_fill_ne hfits.1 h
      have hl : ((digits (m.registers.named x)).map lowByte).length = 3 := rfl
      rw [hl] at hin
      exact .digits hm ⟨hin.1, by omega⟩
  | storeRegisters x =>
      obtain rfl := hc
      have hfits := Memory.fits_of_blockFault?_eq_none (by omega) hf
      have hin := Memory.inside_of_get_fill_ne hfits.1 h
      rw [Registers.length_span] at hin
      exact .row hm ⟨hin.1, by omega⟩
  | _ => exact absurd rfl h

theorem eq_of_place {w : Nat} {k : Fin 16}
    (h : Registers.place (w / 256 % 16 : Nat) = k) : (k : Nat) = w / 256 % 16 := by
  rw [← h, Registers.place_val_of_lt (by omega)]

theorem eq_of_place_flag {k : Fin 16} (h : Registers.place Registers.flag = k) :
    (k : Nat) = 15 := by
  rw [← h]
  rfl

theorem sets_of_ne {m : Machine} {o : Operation} (ho : m.operation? = some o)
    (hf : o.fault? m = none) {k : Fin 16}
    (h : (o.registersAfter m).get k ≠ m.registers.get k) : m.Sets k := by
  obtain ⟨-, hm, hc⟩ := operation?_eq_some_iff.1 ho
  cases o with
  | loadByte x v | addByte x v | random x v =>
      obtain ⟨rfl, rfl⟩ := hc
      have hk := eq_of_place (Registers.eq_of_get_set_ne h)
      exact .named hk ⟨_, by simp [Operation.pattern, Pattern.setting], hm⟩
  | readDelay x =>
      obtain rfl := hc
      have hk := eq_of_place (Registers.eq_of_get_set_ne h)
      exact .named hk ⟨.byte 0xF 0x07, by decide, hm⟩
  | arithmetic f x y =>
      obtain ⟨rfl, rfl⟩ := hc
      obtain ⟨htop, hlow⟩ := hm
      rw [Operation.registersAfter] at h
      cases hflag : f.flag? (m.registers.named (m.word / 256 % 16 : Nat))
          (m.registers.named (m.word / 16 % 16 : Nat)) with
      | none =>
          rw [hflag] at h
          have hk := eq_of_place (Registers.eq_of_get_set_ne h)
          exact .named hk ⟨.family 0x8, by decide, htop⟩
      | some b =>
          rw [hflag, withResult, Registers.get_set] at h
          split at h
          · next hx => exact .named (eq_of_place hx) ⟨.family 0x8, by decide, htop⟩
          · have hk := eq_of_place_flag (Registers.eq_of_get_set_ne h)
            have hn := Arithmetic.selector_of_flag? (by rw [hflag]; exact Option.some_ne_none b)
            exact .carry hk htop (hlow ▸ hn)
  | draw x y n => exact .collision (eq_of_place_flag (Registers.eq_of_get_set_ne h)) hm
  | awaitKey x =>
      obtain rfl := hc
      rw [Operation.registersAfter] at h
      cases hkey : m.keys.poll.1 with
      | none =>
          rw [hkey] at h
          exact absurd rfl h
      | some key =>
          rw [hkey] at h
          have hk := eq_of_place (Registers.eq_of_get_set_ne h)
          exact .key hk hm (by rw [hkey]; exact Option.some_ne_none key)
  | loadRegisters x =>
      obtain rfl := hc
      have hl : (m.memory.block m.index ((m.word / 256 % 16 : Nat) + 1 : Int).toNat).length
          ≤ m.word / 256 % 16 + 1 := by
        have hfits := Memory.fits_of_blockFault?_eq_none (by omega) hf
        rw [Memory.length_block hfits.1]
        omega
      have hk := Registers.lt_of_get_setAll_ne (by omega) h
      exact .row (by omega) hm
  | _ => exact absurd rfl h

theorem matches_of_indexAfter_ne {m : Machine} {o : Operation}
    (ho : m.operation? = some o) (h : o.indexAfter m ≠ m.index) :
    ∃ p ∈ Pattern.indexing, p.Matches m.word := by
  obtain ⟨-, hm, -⟩ := operation?_eq_some_iff.1 ho
  cases o with
  | loadIndex a | addIndex x | pointAtGlyph x | loadRegisters x =>
      exact ⟨_, by simp [Operation.pattern, Pattern.indexing], hm⟩
  | _ => exact absurd rfl h

/-! ## Calls, display, timers -/

theorem callsAfter_of_not_matches {m : Machine} {o : Operation}
    (ho : m.operation? = some o) (hc : ¬ (Pattern.family 0x2).Matches m.word)
    (hr : ¬ (Pattern.byte 0x0 0xEE).Matches m.word) : o.callsAfter m = m.calls := by
  obtain ⟨-, hm, -⟩ := operation?_eq_some_iff.1 ho
  cases o with
  | call a => exact absurd hm hc
  | ret => exact absurd hm hr
  | _ => rfl

theorem displayAfter_of_not_matches {m : Machine} {o : Operation}
    (ho : m.operation? = some o) (hc : ¬ (Pattern.byte 0x0 0xE0).Matches m.word)
    (hd : ¬ (Pattern.family 0xD).Matches m.word) : o.displayAfter m = m.display := by
  obtain ⟨-, hm, -⟩ := operation?_eq_some_iff.1 ho
  cases o with
  | clearScreen => exact absurd hm hc
  | draw x y n => exact absurd hm hd
  | _ => rfl

theorem delayAfter_eq {m : Machine} {o : Operation} (ho : m.operation? = some o) :
    o.delayAfter m = if (Pattern.byte 0xF 0x15).Matches m.word then
      byteValue (m.registers.named (m.word / 256 % 16 : Nat)) else m.delay := by
  obtain ⟨-, hm, -⟩ := operation?_eq_some_iff.1 ho
  split
  · next hw =>
      obtain rfl := eq_of_matches ho (.setDelay (m.word / 256 % 16 : Nat)) hw rfl
      rfl
  · next hw =>
      cases o with
      | setDelay x => exact absurd hm hw
      | _ => rfl

theorem soundAfter_eq {m : Machine} {o : Operation} (ho : m.operation? = some o) :
    o.soundAfter m = if (Pattern.byte 0xF 0x18).Matches m.word then
      byteValue (m.registers.named (m.word / 256 % 16 : Nat)) else m.sound := by
  obtain ⟨-, hm, -⟩ := operation?_eq_some_iff.1 ho
  split
  · next hw =>
      obtain rfl := eq_of_matches ho (.setSound (m.word / 256 % 16 : Nat)) hw rfl
      rfl
  · next hw =>
      cases o with
      | setSound x => exact absurd hm hw
      | _ => rfl

/-! ## Where it goes on -/

/-- Every skip has one of the patterns listed, and only skips have. -/
theorem exists_condition {m : Machine} {o : Operation} (ho : m.operation? = some o)
    (hw : ∃ p ∈ Pattern.skips, p.Matches m.word) : ∃ c, o = .skip c := by
  obtain ⟨p, hp, hm⟩ := hw
  simp only [Pattern.skips, List.mem_cons, List.not_mem_nil, or_false] at hp
  rcases hp with rfl | rfl | rfl | rfl | rfl | rfl
  · exact ⟨_, eq_of_matches ho (.skip (.equalsByte _ _)) hm ⟨rfl, rfl⟩⟩
  · exact ⟨_, eq_of_matches ho (.skip (.differsFromByte _ _)) hm ⟨rfl, rfl⟩⟩
  · exact ⟨_, eq_of_matches ho (.skip (.equalsRegister _ _)) hm ⟨rfl, rfl⟩⟩
  · exact ⟨_, eq_of_matches ho (.skip (.differsFromRegister _ _)) hm ⟨rfl, rfl⟩⟩
  · exact ⟨_, eq_of_matches ho (.skip (.keyHeld _)) hm rfl⟩
  · exact ⟨_, eq_of_matches ho (.skip (.keyNotHeld _)) hm rfl⟩

theorem target_onward {m : Machine} {o : Operation} (ho : m.operation? = some o)
    (hn : ∀ p ∈ Pattern.jumps ++ Pattern.skips, ¬ p.Matches m.word)
    (hk : (Pattern.byte 0xF 0x0A).Matches m.word → m.keys.poll.1 ≠ none) :
    o.target m = m.pc + 2 := by
  obtain ⟨-, hm, -⟩ := operation?_eq_some_iff.1 ho
  cases o with
  | jump a | call a | ret | jumpOffset a =>
      exact absurd hm (hn _ (by simp [Operation.pattern, Pattern.jumps]))
  | skip c =>
      exact absurd hm (hn _ (List.mem_append_right _ c.pattern_mem_skips))
  | awaitKey x =>
      rw [Operation.target, if_pos (Option.isSome_iff_ne_none.2 (hk hm))]
  | _ => rfl

/-- A step that succeeds keeps to its footprint. -/
theorem step_footprint {m m' : Machine} (h : step m = .ok () m') : m.Footprint m' := by
  obtain ⟨o, ho, hf, rfl⟩ := step_eq_ok_iff.1 h
  obtain ⟨⟨hpc₀, hpc⟩, -⟩ := operation?_eq_some_iff.1 ho
  exact {
    memory := by
      intro a ha
      rw [completed_eq] at ha
      exact storesAt_of_ne ho hf ha
    registers := by
      intro k hk
      rw [completed_eq] at hk
      exact sets_of_ne ho hf hk
    index := by
      intro hi
      rw [completed_eq] at hi
      exact matches_of_indexAfter_ne ho hi
    call := by
      intro hw
      obtain rfl := eq_of_matches ho (.call (m.word % 4096 : Nat)) hw rfl
      rw [calls_completed]
      exact frames_callsAfter_call ho hf
    ret := by
      intro hw
      obtain rfl := eq_of_matches ho .ret hw trivial
      rw [calls_completed, pc_completed]
      refine ⟨m.calls.newest, (frames_callsAfter_ret hf).symm, rfl, ?_⟩
      intro hlow
      rw [Operation.target]
      omega
    calls := by
      intro hc hr
      rw [calls_completed]
      exact callsAfter_of_not_matches ho hc hr
    display := by
      intro hc hd
      rw [completed_eq]
      exact displayAfter_of_not_matches ho hc hd
    delay := by
      rw [completed_eq, ← delayAfter_eq ho]
    sound := by
      rw [completed_eq, ← soundAfter_eq ho]
    jump := by
      intro hw
      rw [pc_completed]
      rcases hw with hw | hw
      · obtain rfl := eq_of_matches ho (.jump (m.word % 4096 : Nat)) hw rfl
        rw [Operation.target]
        omega
      · obtain rfl := eq_of_matches ho (.call (m.word % 4096 : Nat)) hw rfl
        rw [Operation.target]
        omega
    offset := by
      intro hw
      obtain rfl := eq_of_matches ho (.jumpOffset (m.word % 4096 : Nat)) hw rfl
      have := byteValue_range (m.registers.named 0)
      rw [pc_completed, Operation.target]
      omega
    wait := by
      intro hw hk
      obtain rfl := eq_of_matches ho (.awaitKey (m.word / 256 % 16 : Nat)) hw rfl
      rw [pc_completed, Operation.target, hk]
      simp only [Option.isSome_none, Bool.false_eq_true, if_false]
      omega
    skip := by
      intro hw
      obtain ⟨c, rfl⟩ := exists_condition ho hw
      rw [pc_completed, Operation.target]
      split <;> omega
    onward := by
      intro hn hk
      rw [pc_completed, target_onward ho hn hk]
      omega }

/-- A byte is loaded, and into no other register than the one named. -/
theorem step_footprint_load :
    ∃ m m' : Machine, m = holding [0x61, 0x05] 0 ∧ step m = .ok () m' ∧
      m'.registers.get 1 = 5 ∧ m.Footprint m' := by
  have hw : (holding [0x61, 0x05] 0).word = 0x6105 :=
    word_holding (by decide) (by decide)
  have ho : (holding [0x61, 0x05] 0).operation? = some (.loadByte 1 5) :=
    operation?_of_matches (by decide) (by rw [hw]; decide) (by rw [hw]; exact ⟨rfl, rfl⟩)
  have hs := step_eq_ok_iff.2 ⟨_, ho, rfl, rfl⟩
  refine ⟨_, _, rfl, hs, ?_, step_footprint hs⟩
  rw [completed_eq]
  rfl

end Machine

end ChipEight
