import ChipEight.Numeral.Number
import Mathlib.Algebra.Group.Nat.Defs

/-!
# Which numbers have a nearest double

An integer is rounded to fifty-three binary digits, and there is no nearest double where
the outcome has more than 1024 of them before the point. The first integer of this kind
lies halfway between the greatest finite double and the power of two after it: the
greatest double has an odd mantissa, so the tie goes up.

The bits of a double are its exponent and its mantissa added up, and a mantissa that is
rounded up to the next power of two carries. So it is enough to compare the exponent with
the greatest there is, and to look at the mantissa only where they are the same.

A quotient that does not exceed one is far from all this, even if the numbers it is made of
have no doubles themselves.
-/

namespace ChipEight.Numeral

/-! ## Rounding a quotient -/

theorem roundQuotient_le (num den : Nat) : roundQuotient num den ≤ num / den + 1 := by
  simp only [roundQuotient]
  split
  · exact Nat.le_succ _
  · split <;> omega

namespace Binary64

/-! ## The bits of an integer -/

theorem scaleDown_neg_natCast (num den j : Nat) :
    scaleDown num den (-j : Int) = (num * 2 ^ j, den) := by
  cases j with
  | zero => simp [scaleDown]
  | succ j =>
      rw [scaleDown, if_neg (by omega), Int.neg_neg, Int.toNat_natCast]
      rfl

theorem floorLog_nonpos {num den : Nat} (h : num ≤ den) (hnum : num ≠ 0) :
    floorLog num den ≤ 0 := by
  have hlog : num.log2 ≤ den.log2 :=
    (Nat.le_log2 (by omega)).2 (Nat.le_trans (Nat.log2_self_le hnum) h)
  simp only [floorLog]
  split <;> omega

/-- A quotient that does not exceed one is rounded to a finite double. -/
theorem nearestBits_lt_of_le {num den : Nat} (hnum : num ≠ 0) (h : num ≤ den) :
    nearestBits num den < infinityBits := by
  have hden : den ≠ 0 := by omega
  have hhigh := floorLog_nonpos h hnum
  have hlow : (num.log2 : Int) - den.log2 - 1 ≤ floorLog num den := by
    simp only [floorLog]
    split <;> omega
  obtain ⟨j, hj, hle, hmantissa⟩ : ∃ j : Nat, max (-1074) (floorLog num den - 52) = -j ∧
      52 ≤ j ∧ num.log2 + 1 + j ≤ 54 + den.log2 :=
    ⟨(-max (-1074) (floorLog num den - 52)).toNat, by omega, by omega, by omega⟩
  have hquotient : num * 2 ^ j < 2 ^ 54 * den :=
    calc num * 2 ^ j < 2 ^ (num.log2 + 1) * 2 ^ j :=
          Nat.mul_lt_mul_of_pos_right Nat.lt_log2_self (Nat.two_pow_pos j)
      _ = 2 ^ (num.log2 + 1 + j) := (Nat.pow_add ..).symm
      _ ≤ 2 ^ (54 + den.log2) := Nat.pow_le_pow_right Nat.two_pos hmantissa
      _ = 2 ^ 54 * 2 ^ den.log2 := Nat.pow_add ..
      _ ≤ 2 ^ 54 * den := Nat.mul_le_mul_left _ (Nat.log2_self_le hden)
  have hfloor : num * 2 ^ j / den < 2 ^ 54 :=
    (Nat.div_lt_iff_lt_mul (Nat.pos_of_ne_zero hden)).2 hquotient
  have hround := roundQuotient_le (num * 2 ^ j) den
  have hexponent : (-(j : Int) + 1074).toNat * 2 ^ 52 ≤ 1022 * 2 ^ 52 :=
    Nat.mul_le_mul_right _ (by omega)
  rw [nearestBits, hj, scaleDown_neg_natCast]
  show (-(j : Int) + 1074).toNat * 2 ^ 52 + roundQuotient (num * 2 ^ j) den < 2047 * 2 ^ 52
  omega

end Binary64

end ChipEight.Numeral
