import ChipEight.Proofs.Machine.Cycle
import Mathlib.Data.Nat.Bitwise

/-!
# Register arithmetic and the registers it works on

An operation on two registers has up to three registers to do with, and any two of them may
be one: its operands may be the same register, and either may be the flag. What it comes to is
stated here in numbers, from the values that the two registers had before anything was
written. The flag is written first and the result second. So a flag that is an operand is
read in time, and a flag that is the destination holds the result.

`computed` and `reported?` are the two tables of the instruction set, by the low digit of the
word.
-/

namespace ChipEight

namespace Arithmetic

/-- The low digits that select an operation. -/
def selectors : List Nat := [0x0, 0x1, 0x2, 0x3, 0x4, 0x5, 0x6, 0x7, 0xE]

/-- The number that the destination is to hold, of the numbers in the two registers. -/
def computed (selector a b : Nat) : Int :=
  match selector with
  | 0x0 => b
  | 0x1 => (a ||| b : Nat)
  | 0x2 => (a &&& b : Nat)
  | 0x3 => (a ^^^ b : Nat)
  | 0x4 => (a + b) % 256
  | 0x5 => ((a : Int) - b) % 256
  | 0x6 => a / 2
  | 0x7 => ((b : Int) - a) % 256
  | 0xE => 2 * a % 256
  | _ => 0

/-- The number that the flag is to hold, where an operation reports something. -/
def reported? (selector a b : Nat) : Option Int :=
  match selector with
  | 0x4 => some (if a + b > 255 then 1 else 0)
  | 0x5 => some (if a ≥ b then 1 else 0)
  | 0x6 => some (a % 2)
  | 0x7 => some (if b ≥ a then 1 else 0)
  | 0xE => some (if a ≥ 128 then 128 else 0)
  | _ => none

theorem exists_of_selector : ∀ n ∈ selectors, ∃ f : Arithmetic, f.selector = n := by
  simp only [selectors, List.forall_mem_cons]
  exact ⟨⟨copy, rfl⟩, ⟨or, rfl⟩, ⟨and, rfl⟩, ⟨xor, rfl⟩, ⟨add, rfl⟩, ⟨sub, rfl⟩,
    ⟨shiftRight, rfl⟩, ⟨subFrom, rfl⟩, ⟨shiftLeft, rfl⟩, fun _ h => absurd h List.not_mem_nil⟩

/-- The high bit of a byte, where it stands. -/
theorem and_high_bit {a : Nat} (h : a < 256) : a &&& 128 = if a ≥ 128 then 128 else 0 := by
  have hbit : a &&& 128 = (a.testBit 7).toNat * 128 := Nat.and_two_pow a 7
  rw [hbit, Nat.testBit_eq_decide_div_mod_eq]
  by_cases hhigh : a / 2 ^ 7 % 2 = 1
  · rw [decide_eq_true hhigh, if_pos (by omega)]
    rfl
  · rw [decide_eq_false hhigh, if_neg (by omega)]
    rfl

theorem byteValue_result (f : Arithmetic) (a b : UInt8) :
    byteValue (f.result a b) = computed f.selector a.toNat b.toNat := by
  have ha := a.toNat_lt
  have hb := b.toNat_lt
  cases f with
  | copy => rfl
  | or => simp [byteValue, result, computed, selector]
  | and => simp [byteValue, result, computed, selector]
  | xor => simp [byteValue, result, computed, selector]
  | add => simp [byteValue, result, computed, selector]
  | sub =>
      simp only [byteValue, result, computed, selector, UInt8.toNat_sub]
      omega
  | shiftRight =>
      simp only [byteValue, result, computed, selector, UInt8.toNat_shiftRight]
      show ((a.toNat >>> 1 : Nat) : Int) = a.toNat / 2
      omega
  | subFrom =>
      simp only [byteValue, result, computed, selector, UInt8.toNat_sub]
      omega
  | shiftLeft =>
      simp only [byteValue, result, computed, selector, UInt8.toNat_shiftLeft]
      show ((a.toNat <<< 1 % 256 : Nat) : Int) = 2 * a.toNat % 256
      omega

theorem map_flag? (f : Arithmetic) (a b : UInt8) :
    (f.flag? a b).map byteValue = reported? f.selector a.toNat b.toNat := by
  cases f with
  | copy | or | and | xor => rfl
  | add =>
      simp only [flag?, reported?, selector, Option.map_some]
      split <;> rfl
  | sub | subFrom =>
      simp only [flag?, reported?, selector, Option.map_some, UInt8.le_iff_toNat_le, ge_iff_le]
      split <;> rfl
  | shiftRight =>
      simp [flag?, reported?, selector, byteValue, Nat.and_one_is_mod]
  | shiftLeft =>
      have hbit := and_high_bit a.toNat_lt
      simp only [flag?, reported?, selector, Option.map_some, byteValue, UInt8.toNat_and]
      show some ((a.toNat &&& 128 : Nat) : Int) = _
      rw [hbit]
      split <;> rfl

end Arithmetic

/-! ## The registers after it -/

/-- A bank after an operation with this low digit: the destination, the flag where it is not
the destination, and the rest. All numbers are those of the bank before. -/
structure Registers.Combined (r : Registers) (x y : Fin 16) (selector : Nat)
    (r' : Registers) : Prop where
  result : byteValue (r'.get x) =
    Arithmetic.computed selector (r.get x).toNat (r.get y).toNat
  flag : x ≠ 15 → byteValue (r'.get 15) =
    (Arithmetic.reported? selector (r.get x).toNat (r.get y).toNat).getD (byteValue (r.get 15))
  others : ∀ i, i ≠ x → i ≠ 15 → r'.get i = r.get i

namespace Machine

/-- The result is written last, and the flag only where there is one. -/
theorem get_withResult (r : Registers) (x i : Fin 16) (result : UInt8) (flag? : Option UInt8) :
    (withResult r x.val result flag?).get i =
      if i = x then result else if i = 15 then flag?.getD (r.get 15) else r.get i := by
  have hplace := Registers.place_val x
  have hflag : Registers.place Registers.flag = 15 := rfl
  by_cases hx : x = i
  · rw [if_pos hx.symm]
    cases flag? <;> rw [withResult, hplace, Registers.get_set, if_pos hx]
  · rw [if_neg (Ne.symm hx)]
    cases flag? with
    | none =>
        rw [withResult, hplace, Registers.get_set, if_neg hx]
        by_cases hi : i = 15
        · rw [if_pos hi, hi]
          rfl
        · rw [if_neg hi]
    | some b =>
        rw [withResult, hplace, hflag, Registers.get_set, if_neg hx, Registers.get_set]
        by_cases hi : i = 15
        · rw [if_pos hi, if_pos hi.symm]
          rfl
        · rw [if_neg hi, if_neg (Ne.symm hi)]

theorem combined_withResult (r : Registers) (x y : Fin 16) (f : Arithmetic) :
    r.Combined x y f.selector (withResult r x.val (f.result (r.get x) (r.get y))
      (f.flag? (r.get x) (r.get y))) where
  result := by
    rw [get_withResult, if_pos rfl, f.byteValue_result]
  flag hx := by
    rw [get_withResult, if_neg hx.symm, if_pos rfl, ← f.map_flag?]
    cases f.flag? (r.get x) (r.get y) <;> rfl
  others i hx hf := by
    rw [get_withResult, if_neg hx, if_neg hf]

/-- The word of an operation on two registers. -/
def arithmeticWord (x y : Fin 16) (selector : Nat) : Nat := 0x8000 + x * 256 + y * 16 + selector

/-- Which registers an operation works on makes no difference to what it computes: the result
and the flag are those of the values that it found, also where the two registers are one or
where one of them is the flag. It cannot fail, and it changes nothing but registers. -/
theorem arithmetic_of_old_values (m : Machine) (x y : Fin 16) (selector : Nat)
    (h : selector ∈ Arithmetic.selectors) :
    ∃ r, (Instruction.ofWord (arithmeticWord x y selector)).execute m =
        .ok (m.pc + 2) { m with registers := r } ∧
      m.registers.Combined x y selector r := by
  obtain ⟨f, rfl⟩ := Arithmetic.exists_of_selector selector h
  have hlow : f.selector < 16 := by cases f <;> decide
  have hlt : arithmeticWord x y f.selector < 65536 := by
    rw [arithmeticWord]
    omega
  have hp : (Operation.arithmetic f x.val y.val).pattern.Matches
      (arithmeticWord x y f.selector) := by
    show arithmeticWord x y f.selector / 4096 = 0x8 ∧
      arithmeticWord x y f.selector % 16 = f.selector
    rw [arithmeticWord]
    omega
  have hc : (Operation.arithmetic f x.val y.val).CarriedBy (arithmeticWord x y f.selector) := by
    show _ ∧ _
    rw [arithmeticWord]
    omega
  refine ⟨_, ?_, combined_withResult m.registers x y f⟩
  rw [Instruction.execute_ofWord hlt hp hc, Operation.outcome_of_none rfl,
    ← m.registers.named_val x, ← m.registers.named_val y]
  rfl

/-- The flag shifted to the left into itself: it is read before it is reported in. -/
theorem arithmetic_of_old_values_flag :
    ∃ m : Machine, m.registers.get 15 = 0x81 ∧ 0xE ∈ Arithmetic.selectors ∧
      ∃ r, (Instruction.ofWord (arithmeticWord 15 15 0xE)).execute m =
          .ok (m.pc + 2) { m with registers := r } ∧ byteValue (r.get 15) = 2 := by
  obtain ⟨m, hm⟩ : ∃ m : Machine, m.registers.get 15 = 0x81 :=
    ⟨{ holding [] 0 with registers := Registers.zero.set 15 0x81 }, rfl⟩
  obtain ⟨r, he, hr⟩ := arithmetic_of_old_values m 15 15 0xE (by decide)
  refine ⟨m, hm, by decide, r, he, ?_⟩
  rw [hr.result, hm]
  rfl

end Machine

end ChipEight
