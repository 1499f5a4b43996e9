import ChipEight.Proofs.Instruction.Assembly
import ChipEight.Proofs.Machine.Cycle

/-!
# Equal text, equal behaviour

A listing drops part of a word: the low digit of a register comparison, the second
register of a shift, the second digit of a return. Whoever reads the listing must
be able to rely on it all the same. Two words with one text are either the same
data, or instructions that no machine can tell apart.

Nothing here compares one word with another. A text reads back to one operation
in its canonical form, so equal texts mean equal canonical forms, and it is enough
that an operation does what its canonical form does.
-/

namespace ChipEight

open Machine

namespace Arithmetic

theorem result_of_isShift {f : Arithmetic} (h : f.isShift) (a b c : UInt8) :
    f.result a b = f.result a c := by
  cases f with
  | shiftRight | shiftLeft => rfl
  | _ => cases h

theorem flag?_of_isShift {f : Arithmetic} (h : f.isShift) (a b c : UInt8) :
    f.flag? a b = f.flag? a c := by
  cases f with
  | shiftRight | shiftLeft => rfl
  | _ => cases h

end Arithmetic

namespace Operation

theorem outcome_arithmetic (m : Machine) (f : Arithmetic) (x y : Int) :
    (arithmetic f x y).outcome m =
      .ok (m.pc + 2) { m with registers := (arithmetic f x y).registersAfter m } := rfl

theorem registersAfter_of_isShift {f : Arithmetic} (hf : f.isShift) (m : Machine)
    (x y z : Int) :
    (arithmetic f x y).registersAfter m = (arithmetic f x z).registersAfter m := by
  rw [registersAfter, registersAfter,
    Arithmetic.result_of_isShift hf _ _ (m.registers.named z),
    Arithmetic.flag?_of_isShift hf _ _ (m.registers.named z)]

/-- The forgotten register plays no part. -/
theorem outcome_canonical (m : Machine) (o : Operation) :
    o.canonical.outcome m = o.outcome m := by
  cases o with
  | arithmetic f x y =>
      rw [canonical]
      split
      · next hf =>
          rw [outcome_arithmetic, outcome_arithmetic, registersAfter_of_isShift hf m x 0 y]
      · rfl
  | _ => rfl

theorem execute_canonical {o : Operation} (ho : o.InRange) :
    o.canonical.execute = o.execute := by
  funext m
  rw [execute_eq ho.canonical, execute_eq ho, outcome_canonical]

end Operation

namespace Disassembly

theorem ofWord_of_some {w : Nat} {o : Operation}
    (h : (Instruction.ofWord w).operation? = some o) : ofWord w = o.text := by
  rw [ofWord, Instruction.decode_of_some h none]
  exact Instruction.text_of_some h

theorem ofWord_of_none {w : Nat} (hw : w < 65536)
    (h : (Instruction.ofWord w).operation? = none) : ofWord w = "DW " ++ wordText w := by
  rw [ofWord, Instruction.decode_word_of_none hw h none]

/-- The text of a word reads as what the word does, and as nothing where it is data. -/
theorem read_ofWord {w : Nat} (hw : w < 65536) :
    Assembly.read (ofWord w) =
      (Instruction.ofWord w).operation?.map Operation.canonical := by
  cases h : (Instruction.ofWord w).operation? with
  | none =>
      rw [ofWord_of_none hw h, Assembly.read_data (Int.natCast_nonneg w)]
      rfl
  | some o =>
      have ho := ((Instruction.operation?_eq_some_iff hw).1 h).2.inRange
      rw [ofWord_of_some h, Operation.read_text ho]
      rfl

theorem wordText_inj {v w : Nat} (h : wordText v = wordText w) : v = w := by
  have hv := Assembly.reads_word (Int.natCast_nonneg v)
  have hw := Assembly.reads_word (Int.natCast_nonneg w)
  rw [Assembly.Reads, h, hw.2, Operand.value.injEq] at hv
  omega

end Disassembly

namespace Instruction

/-- Two words that nothing in the machine tells apart. Either they are the same word
and it is data, or they are instructions of one name that every machine carries out
alike: with the same answer or the same fault, and leaving the same machine, with
the same devices, behind. -/
inductive Interchangeable (w₁ w₂ : Nat) : Prop where
  | data (same : w₁ = w₂)
      (refused₁ : ∀ a, decode w₁ a = .error (.unknownInstruction w₁ a))
      (refused₂ : ∀ a, decode w₂ a = .error (.unknownInstruction w₂ a))
  | instruction (i₁ i₂ : Instruction) (decoded₁ : ∀ a, decode w₁ a = .ok i₁)
      (decoded₂ : ∀ a, decode w₂ a = .ok i₂) (name : i₁.mnemonic = i₂.mnemonic)
      (behaviour : ∀ m : Machine, i₁.execute m = i₂.execute m)

/-- A text determines what its word does. -/
theorem interchangeable_of_text {w₁ w₂ : Nat} (h₁ : w₁ < 65536) (h₂ : w₂ < 65536)
    (h : Disassembly.ofWord w₁ = Disassembly.ofWord w₂) : Interchangeable w₁ w₂ := by
  have hread : (ofWord w₁).operation?.map Operation.canonical =
      (ofWord w₂).operation?.map Operation.canonical := by
    rw [← Disassembly.read_ofWord h₁, ← Disassembly.read_ofWord h₂, h]
  cases ho₁ : (ofWord w₁).operation? with
  | none =>
      -- data shows the whole word, so nothing is lost
      rw [ho₁, Option.map_none, eq_comm, Option.map_eq_none_iff] at hread
      rw [Disassembly.ofWord_of_none h₁ ho₁, Disassembly.ofWord_of_none h₂ hread,
        String.append_right_inj] at h
      exact .data (Disassembly.wordText_inj h) (decode_word_of_none h₁ ho₁)
        (decode_word_of_none h₂ hread)
  | some o₁ =>
      rw [ho₁, Option.map_some, eq_comm, Option.map_eq_some_iff] at hread
      obtain ⟨o₂, ho₂, hcanonical⟩ := hread
      have hr₁ := ((operation?_eq_some_iff h₁).1 ho₁).2.inRange
      have hr₂ := ((operation?_eq_some_iff h₂).1 ho₂).2.inRange
      refine .instruction _ _ (decode_of_some ho₁) (decode_of_some ho₂) ?_ ?_
      · rw [mnemonic_of_some ho₁, mnemonic_of_some ho₂, ← o₁.mnemonic_canonical,
          ← o₂.mnemonic_canonical, hcanonical]
      · intro m
        rw [execute_of_some ho₁, execute_of_some ho₂, ← Operation.execute_canonical hr₁,
          ← Operation.execute_canonical hr₂, hcanonical]

/-- Two shifts that differ in the register no shift uses. -/
theorem interchangeable_of_text_shift :
    0x8126 < 65536 ∧ 0x8136 < 65536 ∧
      Disassembly.ofWord (0x8126 : Nat) = Disassembly.ofWord (0x8136 : Nat) ∧
      Interchangeable 0x8126 0x8136 := by
  have h : Disassembly.ofWord (0x8126 : Nat) = Disassembly.ofWord (0x8136 : Nat) := by
    decide +kernel
  exact ⟨by decide, by decide, h, interchangeable_of_text (by decide) (by decide) h⟩

end Instruction

end ChipEight
