import ChipEight.Registers

/-!
# Registers by operand

An operand of an instruction is an integer, and `read` and `write` answer for
any of them. An operand that a word carries is a nibble, and then neither can
fail: `place` is the register it names.

Rows of registers are read and replaced from one register upwards, the way the
block instructions go through them.
-/

namespace ChipEight.Registers

/-- The register that a nibble names. -/
def place (x : Int) : Fin 16 := ⟨x.toNat % 16, Nat.mod_lt _ (by decide)⟩

/-- The value of the register that a nibble names. -/
def named (r : Registers) (x : Int) : UInt8 := r.get (place x)

/-- The values of `count` registers from the `i`-th upwards. -/
def span (r : Registers) (i count : Nat) : List UInt8 :=
  (List.range' i count).map fun (k : Nat) => r.named k

/-- The bank with values put into the registers from the `i`-th upwards. -/
def setAll (r : Registers) (i : Nat) : List UInt8 → Registers
  | [] => r
  | b :: bs => (r.set (place i) b).setAll (i + 1) bs

theorem slot?_of_nibble {x : Int} (h : 0 ≤ x ∧ x < 16) : slot? x = some (place x) := by
  rw [slot?, dif_pos h]
  congr 1
  apply Fin.ext
  simp only [place]
  omega

theorem read_of_nibble {x : Int} (h : 0 ≤ x ∧ x < 16) (r : Registers) :
    r.read x = .ok (r.named x) := by
  rw [read, slot?_of_nibble h]
  rfl

theorem write_of_nibble {x : Int} (h : 0 ≤ x ∧ x < 16) (r : Registers) (v : Int) :
    r.write x v = .ok (r.set (place x) (lowByte v)) := by
  rw [write, slot?_of_nibble h]

theorem place_val_of_lt {i : Nat} (h : i < 16) : (place i : Nat) = i := by
  simp only [place]
  omega

theorem place_val (i : Fin 16) : place i.val = i := Fin.ext (place_val_of_lt i.isLt)

theorem named_val (r : Registers) (i : Fin 16) : r.named i.val = r.get i :=
  congrArg r.get (place_val i)

theorem span_succ (r : Registers) (i count : Nat) :
    r.span i (count + 1) = r.named i :: r.span (i + 1) count := by
  rw [span, List.range'_succ, List.map_cons, span]

@[simp] theorem length_span (r : Registers) (i count : Nat) :
    (r.span i count).length = count := by
  simp [span]

theorem getD_span (r : Registers) {i count k : Nat} (h : k < count) :
    (r.span i count).getD k 0 = r.named (i + k : Nat) := by
  simp [span, h]

/-- What a row of writes leaves in every register. -/
theorem get_setAll (r : Registers) {i : Nat} (bs : List UInt8) (h : i + bs.length ≤ 16)
    (k : Fin 16) :
    (r.setAll i bs).get k =
      if i ≤ k ∧ k < i + bs.length then bs.getD (k - i) 0 else r.get k := by
  induction bs generalizing r i with
  | nil =>
      rw [if_neg (by simp only [List.length_nil]; omega)]
      rfl
  | cons b bs ih =>
      simp only [List.length_cons] at h ⊢
      have hi : (place i : Nat) = i := place_val_of_lt (by omega)
      rw [setAll, ih _ (by omega)]
      by_cases hk : i = k
      · have hp : place i = k := Fin.ext (by omega)
        rw [if_neg (by omega), if_pos (by omega), get_set, if_pos hp, hk, Nat.sub_self]
        rfl
      · have hp : place i ≠ k := fun e => hk (by rw [← e]; omega)
        by_cases hin : i + 1 ≤ k ∧ k < i + 1 + bs.length
        · rw [if_pos hin, if_pos (by omega),
            show (k : Nat) - i = k - (i + 1) + 1 by omega]
          rfl
        · rw [if_neg hin, if_neg (by omega), get_set, if_neg hp]

end ChipEight.Registers
