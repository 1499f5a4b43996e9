import ChipEight.Proofs.Machine.Grammar

/-!
# Instructions put together by hand

Of a word everybody says the same, but an instruction is a record of fields, and the fields
can be filled by hand with integers that no word has. The executor, the statistics and the
listing look at such a record without the decoder in front of them, so the question which
instructions there are comes up once more, for each of them by itself.

The executor and the statistics agree: an instruction is refused exactly if it is counted
under a name that stands for no instruction. What takes a proof is that nothing else is refused.
With operands of any size an operation may fail in more ways than with those of a word, and that
it never fails for being unknown is shown of the actions it is made of, one after the other. A
refused instruction leaves the machine as it was, but for one poll of the input device where
it belongs to the key family.

The listing agrees with them up to that family. There it has two texts for all selectors, so
an unused one is listed as if it were the second skip.
-/

namespace ChipEight

namespace Exec

variable {α β : Type}

/-- An action that may fail, but never because it finds an instruction unknown. -/
def Knows (x : Exec α) : Prop :=
  ∀ m w a m', x m ≠ .error (.unknownInstruction w a) m'

theorem Knows.bind {x : Exec α} {f : α → Exec β} (hx : Knows x) (hf : ∀ v, Knows (f v)) :
    Knows (x >>= f) := by
  intro m w a m' h
  cases hxm : x m with
  | ok v n =>
      rw [bind_of_ok hxm] at h
      exact hf v n w a m' h
  | error e n =>
      rw [bind_of_error hxm] at h
      cases h
      exact hx m w a _ hxm

theorem knows_pure (v : α) : Knows (pure v) := by
  intro m w a m' h
  cases h

theorem knows_get : Knows (get : Exec Machine) := by
  intro m w a m' h
  cases h

theorem knows_modify (g : Machine → Machine) : Knows (modify g : Exec PUnit) := by
  intro m w a m' h
  cases h

end Exec

namespace Machine

open Exec

theorem knows_readRegister (i : Int) : Knows (readRegister i) := by
  intro m w a m' h
  rw [readRegister, inspect, Registers.read] at h
  cases hs : Registers.slot? i <;> rw [hs] at h <;> cases h

theorem knows_writeRegister (i v : Int) : Knows (writeRegister i v) := by
  intro m w a m' h
  rw [writeRegister, Registers.write] at h
  cases hs : Registers.slot? i <;> rw [hs] at h <;> cases h

/-- An access to memory that only looks may leave the memory, and that is all. -/
theorem knows_inspect_guarded {α : Type} (address : Machine → Int) (width : Int)
    (f : Machine → Nat → α) :
    Knows (inspect fun m => Memory.guarded Image.memorySize (address m) width (f m)) := by
  intro m w a m' h
  by_cases hfits : Memory.Fits Image.memorySize (address m) width
  · rw [inspect, Memory.guarded_of_fits hfits] at h
    cases h
  · rw [inspect, Memory.guarded_of_not_fits hfits] at h
    cases h

theorem knows_store (a v : Int) : Knows (store a v) := by
  intro m w b m' h
  by_cases hfits : Memory.Fits Image.memorySize a 1
  · rw [store_of_fits hfits] at h
    cases h
  · rw [store_of_not_fits hfits] at h
    cases h

theorem knows_pollKey : Knows pollKey := by
  intro m w a m' h
  cases h

theorem knows_drawByte : Knows drawByte := by
  intro m w a m' h
  cases h

theorem knows_pushCall (site : Int) : Knows (pushCall site) := by
  intro m w a m' h
  by_cases hfree : m.calls.depth < m.calls.capacity
  · rw [pushCall_of_lt hfree] at h
    cases h
  · rw [pushCall_of_not_lt hfree] at h
    cases h

theorem knows_popCall : Knows popCall := by
  intro m w a m' h
  by_cases hempty : m.calls.depth = 0
  · rw [popCall_of_eq hempty] at h
    cases h
  · rw [popCall_of_ne hempty] at h
    cases h

theorem knows_ahead (n : Int) : Knows (ahead n) :=
  .bind knows_get fun _ => knows_pure _

theorem knows_keyMatches (x : Int) : Knows (keyMatches x) := by
  refine .bind knows_pollKey fun answer => ?_
  cases answer with
  | none => exact knows_pure _
  | some key => exact .bind (knows_readRegister x) fun _ => knows_pure _

theorem knows_writeResult (x : Int) (result : UInt8) (flag : Option UInt8) :
    Knows (writeResult x result flag) := by
  unfold writeResult
  cases flag with
  | none => exact knows_writeRegister _ _
  | some b => exact .bind (knows_writeRegister _ _) fun _ => knows_writeRegister _ _

theorem knows_storeFrom (base i : Int) (count : Nat) : Knows (storeFrom base i count) := by
  induction count generalizing i with
  | zero => exact knows_pure _
  | succ count ih =>
      exact .bind (knows_readRegister i) fun _ => .bind (knows_store _ _) fun _ => ih _

theorem knows_loadFrom (base i : Int) (count : Nat) : Knows (loadFrom base i count) := by
  induction count generalizing i with
  | zero => exact knows_pure _
  | succ count ih =>
      exact .bind (knows_inspect_guarded _ 1 _) fun _ =>
        .bind (knows_writeRegister _ _) fun _ => ih _

end Machine

open Machine Exec

theorem Condition.knows_holds (c : Condition) : Knows c.holds := by
  cases c with
  | equalsByte x v | differsFromByte x v =>
      exact .bind (knows_readRegister x) fun _ => knows_pure _
  | equalsRegister x y | differsFromRegister x y =>
      exact .bind (knows_readRegister x) fun _ =>
        .bind (knows_readRegister y) fun _ => knows_pure _
  | keyHeld x => exact knows_keyMatches x
  | keyNotHeld x => exact .bind (knows_keyMatches x) fun _ => knows_pure _

/-- No operation finds itself unknown, whatever its operands are. -/
theorem Operation.knows_execute (o : Operation) : Knows o.execute := by
  cases o with
  | clearScreen | loadIndex a => exact .bind (knows_modify _) fun _ => knows_ahead 2
  | ret => exact .bind knows_popCall fun _ => knows_pure _
  | jump a => exact knows_pure a
  | call a =>
      exact .bind knows_get fun _ => .bind (knows_pushCall _) fun _ => knows_pure a
  | skip c => exact .bind c.knows_holds fun _ => knows_ahead _
  | loadByte x v => exact .bind (knows_writeRegister x v) fun _ => knows_ahead 2
  | addByte x v =>
      exact .bind (knows_readRegister x) fun _ =>
        .bind (knows_writeRegister x _) fun _ => knows_ahead 2
  | arithmetic f x y =>
      exact .bind (knows_readRegister x) fun _ => .bind (knows_readRegister y) fun _ =>
        .bind (knows_writeResult x _ _) fun _ => knows_ahead 2
  | jumpOffset a => exact .bind (knows_readRegister 0) fun _ => knows_pure _
  | random x mask =>
      exact .bind knows_drawByte fun _ =>
        .bind (knows_writeRegister x _) fun _ => knows_ahead 2
  | draw x y n =>
      exact .bind (knows_inspect_guarded _ n _) fun _ =>
        .bind (knows_readRegister x) fun _ => .bind (knows_readRegister y) fun _ =>
          .bind knows_get fun _ => .bind (knows_modify _) fun _ =>
            .bind (knows_writeRegister _ _) fun _ => .bind (knows_modify _) fun _ =>
              knows_ahead 2
  | readDelay x =>
      exact .bind knows_get fun _ => .bind (knows_writeRegister x _) fun _ => knows_ahead 2
  | awaitKey x =>
      refine .bind knows_pollKey fun answer => ?_
      cases answer with
      | none => exact knows_ahead 0
      | some key => exact .bind (knows_writeRegister x key) fun _ => knows_ahead 2
  | setDelay x | setSound x | addIndex x | pointAtGlyph x =>
      exact .bind (knows_readRegister x) fun _ =>
        .bind (knows_modify _) fun _ => knows_ahead 2
  | storeDigits x =>
      exact .bind (knows_readRegister x) fun _ => .bind knows_get fun _ =>
        .bind (knows_store _ _) fun _ => .bind (knows_store _ _) fun _ =>
          .bind (knows_store _ _) fun _ => knows_ahead 2
  | storeRegisters x =>
      exact .bind knows_get fun _ => .bind (knows_storeFrom _ 0 _) fun _ => knows_ahead 2
  | loadRegisters x =>
      exact .bind knows_get fun _ => .bind (knows_loadFrom _ 0 _) fun _ =>
        .bind (knows_modify _) fun _ => knows_ahead 2

/-! ## Which instructions there are -/

/-- The names with a question mark, and the one for an instruction of no family. -/
def Family.placeholders : List String := ["SYS?", "ALU?", "KEY?", "MISC?", "UNKNOWN"]

theorem Family.placeholder_mem_placeholders (family : Option Family) :
    Family.placeholder family ∈ Family.placeholders := by
  cases family with
  | none => decide
  | some f => cases f <;> decide

theorem Operation.mnemonic_not_mem_placeholders (o : Operation) :
    o.mnemonic ∉ Family.placeholders := by
  have happart : ∀ name ∈ mnemonics, name ∉ Family.placeholders := by decide
  exact happart _ o.mnemonic_mem_mnemonics

namespace Instruction

/-- What the executor, the statistics and the listing make of an instruction. -/
structure Consistent (i : Instruction) : Prop where
  executed : ∀ m, (∃ w a m', i.execute m = .error (.unknownInstruction w a) m') ↔
    i.mnemonic ∈ Family.placeholders
  refused : ∀ m w a m', i.execute m = .error (.unknownInstruction w a) m' →
    w = i.word ∧ a = (if i.op = 0x8 then none else some m.pc) ∧ m' = m.refusing i
  listed : Disassembly.ShowsUnused i.text ↔
    i.mnemonic ∈ Family.placeholders ∧ i.op ≠ 0xE
  unusedText : Disassembly.ShowsUnused i.text →
    i.text = "??? (" ++ Disassembly.wordText i.word ++ ")"
  keyText : i.mnemonic ∈ Family.placeholders → i.op = 0xE →
    i.text = (Operation.skip (.keyNotHeld i.x)).text

variable {i : Instruction}

theorem mnemonic_mem_placeholders_iff :
    i.mnemonic ∈ Family.placeholders ↔ i.operation? = none := by
  cases ho : i.operation? with
  | none =>
      rw [mnemonic_of_none ho]
      exact iff_of_true (Family.placeholder_mem_placeholders _) rfl
  | some o =>
      rw [mnemonic_of_some ho]
      exact iff_of_false o.mnemonic_not_mem_placeholders (Option.some_ne_none o)

theorem knows_execute_of_some {o : Operation} (ho : i.operation? = some o) :
    Knows i.execute := by
  rw [execute_of_some ho]
  exact o.knows_execute

theorem text_of_none (ho : i.operation? = none) (hop : i.op ≠ 0xE) :
    i.text = "??? (" ++ Disassembly.wordText i.word ++ ")" := by
  rw [text, text?_of_none ho, if_neg hop, Option.getD_none]

theorem text_of_keys (ho : i.operation? = none) (hop : i.op = 0xE) :
    i.text = (Operation.skip (.keyNotHeld i.x)).text := by
  rw [text, text?_of_none ho, if_pos hop, Option.getD_some]
  rfl

theorem showsUnused_iff :
    Disassembly.ShowsUnused i.text ↔ i.operation? = none ∧ i.op ≠ 0xE := by
  cases ho : i.operation? with
  | some o =>
      rw [text_of_some ho]
      exact iff_of_false o.not_shows_text.2 fun h => Option.some_ne_none o h.1
  | none =>
      by_cases hop : i.op = 0xE
      · rw [text_of_keys ho hop]
        exact iff_of_false (Operation.not_shows_text _).2 fun h => h.2 hop
      · rw [text_of_none ho hop, Disassembly.ShowsUnused, String.toList_append,
          String.toList_append, List.append_assoc]
        exact iff_of_true (List.prefix_append _ _) ⟨rfl, hop⟩

/-- The executor and the statistics know of the same instructions, and the listing of the same
outside the key family, in which it lists an unused selector as the second skip. An
instruction that is refused has done nothing, but for a key that was asked for. -/
theorem consistent_of_nibbles (hx : IsNibble i.x) (hy : IsNibble i.y) : i.Consistent where
  executed m := by
    rw [mnemonic_mem_placeholders_iff]
    cases ho : i.operation? with
    | none => exact iff_of_true ⟨_, _, _, execute_of_none ho hx hy m⟩ rfl
    | some o =>
        refine iff_of_false ?_ (Option.some_ne_none o)
        rintro ⟨w, a, m', h⟩
        exact knows_execute_of_some ho m w a m' h
  refused m w a m' h := by
    cases ho : i.operation? with
    | none =>
        rw [execute_of_none ho hx hy m] at h
        cases h
        exact ⟨rfl, rfl, rfl⟩
    | some o => exact absurd h (knows_execute_of_some ho m w a m')
  listed := by
    rw [mnemonic_mem_placeholders_iff]
    exact showsUnused_iff
  unusedText h := by
    obtain ⟨ho, hop⟩ := showsUnused_iff.1 h
    exact text_of_none ho hop
  keyText hname hop := text_of_keys (mnemonic_mem_placeholders_iff.1 hname) hop

/-- A selector of the arithmetic family that no digit is, in an instruction whose word says
something else altogether. -/
theorem consistent_of_nibbles_negative :
    ∃ i : Instruction, i = ⟨0x1200, 0x8, 15, 0, -1, 256, 0⟩ ∧ IsNibble i.x ∧ IsNibble i.y ∧
      i.Consistent ∧ i.mnemonic = "ALU?" ∧ i.text = "??? (0x1200)" := by
  have hx : IsNibble 15 := ⟨by decide, by decide⟩
  have hy : IsNibble 0 := ⟨by decide, by decide⟩
  exact ⟨_, rfl, hx, hy, consistent_of_nibbles hx hy, by decide, by decide⟩

/-- In the key family the listing goes its own way: an instruction that is counted as none
and that every machine refuses is listed as a skip. -/
theorem unused_key_listed_as_skip :
    ∃ i : Instruction, i = { word := 0xE100, op := 0xE, x := 1 } ∧ i.mnemonic = "KEY?" ∧
      (∀ m, ∃ w a m', i.execute m = .error (.unknownInstruction w a) m') ∧
      i.text = "SKNP V1" ∧ ¬ Disassembly.ShowsUnused i.text := by
  have ho : ({ word := 0xE100, op := 0xE, x := 1 } : Instruction).operation? = none := rfl
  have hx : IsNibble 1 := ⟨by decide, by decide⟩
  have hy : IsNibble 0 := ⟨by decide, by decide⟩
  refine ⟨_, rfl, rfl, fun m => ⟨_, _, _, execute_of_none ho hx hy m⟩, by decide, ?_⟩
  intro h
  exact (showsUnused_iff.1 h).2 rfl

end Instruction

end ChipEight
