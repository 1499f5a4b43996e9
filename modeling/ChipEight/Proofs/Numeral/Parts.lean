import ChipEight.Numeral.Number
import Mathlib.Algebra.Group.Nat.Defs

/-!
# The parts of a double

A double is compared by its sign, its mantissa and its exponent, and these are the parts that
it is taken apart into. What that is needed for here is the sign of a double: below zero and
not below it are two cases of three, since nothing compares with NaN. There is one NaN alone, and
one infinity of each sign, so that these parts determine the double.
-/

namespace ChipEight.Numeral.Binary64

open Float.Model (UnpackedFloat)

theorem unpackExponent_toNat (b : BitVec 64) :
    (@UnpackedFloat.unpackExponent .binary64 b).toNat =
      b.toNat / 2 ^ 52 % 2 ^ 11 := by
  simp [UnpackedFloat.unpackExponent, Nat.shiftRight_eq_div_pow]

theorem unpackMantissa_toNat (b : BitVec 64) :
    (@UnpackedFloat.unpackMantissa .binary64 b).toNat = b.toNat % 2 ^ 52 := by
  simp [UnpackedFloat.unpackMantissa]

theorem unpackSign_toNat (b : BitVec 64) :
    (@UnpackedFloat.unpackSign .binary64 b).toNat = b.toNat / 2 ^ 63 := by
  have hlt := b.isLt
  show (b.toNat >>> 63) % 2 ^ 1 = _
  rw [Nat.shiftRight_eq_div_pow]
  omega

/-- Whether the sign is a minus. -/
def isMinus : UnpackedFloat.Sign → Bool
  | .negative => true
  | .positive => false

/-- The parts of an unpacked double. -/
def Parts.ofUnpacked : UnpackedFloat → Parts
  | .notANumber => .nan
  | .infinity s => .infinite (isMinus s)
  | .zero s => .finite (isMinus s) 0 (-1074)
  | .finite s m e _ => .finite (isMinus s) m e

theorem isMinus_ofBitVec (b : BitVec 1) :
    isMinus (UnpackedFloat.Sign.ofBitVec b) = (b.toNat == 1) := by
  obtain rfl | rfl := BitVec.eq_zero_or_eq_one b <;> rfl

theorem shiftRight_eq_one_iff (bits : UInt64) :
    (bits >>> 63 == 1) = (bits.toNat / 2 ^ 63 == 1) := by
  rw [Bool.eq_iff_iff, beq_iff_eq, beq_iff_eq, ← UInt64.toNat_inj]
  simp [UInt64.toNat_shiftRight, Nat.shiftRight_eq_div_pow]

theorem append_one_toNat (m : BitVec 52) : (1#1 ++ m).toNat = 2 ^ 52 + m.toNat := by
  have := m.isLt
  rw [BitVec.toNat_append, ← Nat.shiftLeft_add_eq_or_of_lt this]
  rfl

/-- What a double is unpacked into, by its bits as numbers. -/
theorem ofUnpacked_unpack (b : BitVec 64) :
    Parts.ofUnpacked (UnpackedFloat.unpack .binary64 b) =
      if b.toNat / 2 ^ 52 % 2 ^ 11 = 2047 then
        if b.toNat % 2 ^ 52 = 0 then .infinite (b.toNat / 2 ^ 63 == 1) else .nan
      else if b.toNat / 2 ^ 52 % 2 ^ 11 = 0 then
        .finite (b.toNat / 2 ^ 63 == 1) (b.toNat % 2 ^ 52) (-1074)
      else
        .finite (b.toNat / 2 ^ 63 == 1) (2 ^ 52 + b.toNat % 2 ^ 52)
          ((b.toNat / 2 ^ 52 % 2 ^ 11 : Nat) - 1075) := by
  have hmax : (@UnpackedFloat.unpackExponent .binary64 b).toNat = 2047 ↔
      @UnpackedFloat.unpackExponent .binary64 b = -1#11 := BitVec.toNat_inj (y := -1#11)
  have hmin : (@UnpackedFloat.unpackExponent .binary64 b).toNat = 0 ↔
      @UnpackedFloat.unpackExponent .binary64 b = 0#11 := BitVec.toNat_inj (y := 0#11)
  have hnone : (@UnpackedFloat.unpackMantissa .binary64 b).toNat = 0 ↔
      @UnpackedFloat.unpackMantissa .binary64 b = 0#52 := BitVec.toNat_inj (y := 0#52)
  rw [← unpackExponent_toNat, ← unpackMantissa_toNat, ← unpackSign_toNat, ← isMinus_ofBitVec]
  unfold UnpackedFloat.unpack
  split
  · next h =>
      split
      · next hm =>
          exact congrArg Parts.ofUnpacked ((if_pos (hmax.1 h)).trans (if_pos (hnone.1 hm)))
      · next hm =>
          exact congrArg Parts.ofUnpacked ((if_pos (hmax.1 h)).trans (if_neg (mt hnone.2 hm)))
  next h =>
  split
  · next h' =>
      refine (congrArg Parts.ofUnpacked
        ((if_neg (mt hmax.2 h)).trans (if_pos (hmin.1 h')))).trans ?_
      by_cases hm : @UnpackedFloat.unpackMantissa .binary64 b = 0#52
      · refine (congrArg Parts.ofUnpacked (dif_pos hm)).trans ?_
        rw [hnone.2 hm]
        rfl
      · refine (congrArg Parts.ofUnpacked (dif_neg hm)).trans ?_
        rw [hmin.1 h']
        rfl
  · next h' =>
      rw [← append_one_toNat]
      exact congrArg Parts.ofUnpacked
        ((if_neg (mt hmax.2 h)).trans (if_neg (mt hmin.2 h')))

/-- Both ways to take a double apart give the same parts. -/
theorem parts_eq_ofUnpacked (x : Float) : parts x = Parts.ofUnpacked x.toModel.unpack := by
  refine Eq.trans ?_ (ofUnpacked_unpack x.toBits.toBitVec).symm
  rw [parts, Parts.ofBits, shiftRight_eq_one_iff]
  rfl

/-! ## The sign of a double -/

theorem lt_iff {x y : Float} :
    x < y ↔ x.toModel.unpack.compare y.toModel.unpack = some .lt := by
  show x.lt y = true ↔ _
  rw [Float.lt, decide_eq_true_eq]
  show Float.Model.lt _ _ = true ↔ _
  rw [Float.Model.lt, UnpackedFloat.lt, beq_iff_eq]

theorem le_iff {x y : Float} :
    x ≤ y ↔ (x.toModel.unpack.compare y.toModel.unpack).any (·.isLE) = true := by
  show x.le y = true ↔ _
  rw [Float.le, decide_eq_true_eq]
  rfl

theorem unpack_zero : (0 : Float).toModel.unpack = .zero .positive := rfl

section

variable {s : UnpackedFloat.Sign} {m : Nat} {e : Int} {h : 0 < m}

theorem compare_finite_zero : (UnpackedFloat.finite s m e h).compare (.zero .positive) =
    some (if isMinus s then .lt else .gt) := by
  cases s <;> rfl

theorem compare_zero_finite : (UnpackedFloat.zero .positive).compare (.finite s m e h) =
    some (if isMinus s then .gt else .lt) := by
  cases s <;> rfl

end

/-- Not to be below zero is to be zero or more, or to be no number. -/
theorem not_neg_iff {x : Float} : ¬x < 0 ↔ parts x = .nan ∨ 0 ≤ x := by
  rw [lt_iff, le_iff, parts_eq_ofUnpacked, unpack_zero]
  cases x.toModel.unpack with
  | notANumber => decide
  | infinity s => cases s <;> decide
  | zero s => cases s <;> decide
  | finite s m e h =>
      rw [compare_finite_zero, compare_zero_finite]
      change _ ↔ Parts.finite (isMinus s) m e = .nan ∨ _
      cases isMinus s <;> simp

theorem not_le_zero_iff {x : Float} : ¬x ≤ 0 ↔ parts x = .nan ∨ 0 ≤ x ∧ ¬x ≤ 0 := by
  rw [le_iff, le_iff, parts_eq_ofUnpacked, unpack_zero]
  cases x.toModel.unpack with
  | notANumber => decide
  | infinity s => cases s <;> decide
  | zero s => cases s <;> decide
  | finite s m e h =>
      rw [compare_finite_zero, compare_zero_finite]
      change _ ↔ Parts.finite (isMinus s) m e = .nan ∨ _
      cases isMinus s <;> simp

/-! ## What has one double alone -/

theorem eq_of_toBits {x y : Float} (h : x.toBits.toNat = y.toBits.toNat) : x = y := by
  obtain ⟨⟨bits, hvalid⟩⟩ := x
  obtain ⟨⟨bits', hvalid'⟩⟩ := y
  obtain rfl : bits = bits' := UInt64.toNat_inj.1 h
  rfl

theorem eq_nan_of_parts {x : Float} (h : parts x = .nan) : x = nan := by
  have hbits : x.toBits.toNat / 2 ^ 52 % 2 ^ 11 = 2047 ∧ x.toBits.toNat % 2 ^ 52 ≠ 0 := by
    unfold parts Parts.ofBits at h
    simp only [twoPow, Nat.pow_eq] at h
    split at h
    · split at h
      · cases h
      · exact ⟨‹_›, ‹_›⟩
    · split at h <;> cases h
  have hnan := x.toModel.valid.eq_packedNaN
    (BitVec.toNat_inj.1 ((unpackExponent_toNat _).trans hbits.1)) fun hzero =>
      hbits.2 ((unpackMantissa_toNat _).symm.trans (congrArg BitVec.toNat hzero))
  apply eq_of_toBits
  show x.toModel.toBits.toBitVec.toNat = _
  rw [hnan]
  decide +kernel

theorem eq_infinity_of_parts {x : Float} {negative : Bool} (h : parts x = .infinite negative) :
    x = infinity negative := by
  have hlt := x.toBits.toNat_lt
  apply eq_of_toBits
  unfold parts Parts.ofBits at h
  rw [shiftRight_eq_one_iff] at h
  simp only [twoPow, Nat.pow_eq] at h
  split at h
  · split at h
    · have hneg := Parts.infinite.inj h
      cases negative with
      | true =>
          rw [beq_iff_eq] at hneg
          rw [show (infinity true).toBits.toNat = 2 ^ 63 + 2047 * 2 ^ 52 by decide +kernel]
          omega
      | false =>
          rw [beq_eq_false_iff_ne] at hneg
          rw [show (infinity false).toBits.toNat = 2047 * 2 ^ 52 by decide +kernel]
          omega
    · cases h
  · split at h <;> cases h

end ChipEight.Numeral.Binary64

namespace ChipEight.Number

open Numeral.Binary64
open Float.Model (UnpackedFloat)

/-- The number is NaN. -/
def IsNan (n : Number) : Prop := ∃ x, n = .real x ∧ parts x = .nan

theorem zero_le_whole_iff {n : Int} : (0 : Number) ≤ .whole n ↔ 0 ≤ n := decide_eq_true_iff

theorem twoPow_pos (n : Nat) : 0 < Numeral.twoPow n := Nat.two_pow_pos n

theorem wholeLeFinite_zero {negative : Bool} {m : Nat} {e : Int} :
    wholeLeFinite 0 negative m e = true ↔ (negative = true → m = 0) := by
  have hscale := twoPow_pos e.toNat
  rw [wholeLeFinite, Int.zero_mul, decide_eq_true_eq]
  cases negative
  · exact iff_of_true (Int.natCast_nonneg _) nofun
  · simp only [if_true, forall_const]
    generalize Numeral.twoPow e.toNat = s at hscale
    rw [Int.neg_nonneg, ← Int.natCast_zero, Int.ofNat_le, Nat.le_zero, Nat.mul_eq_zero]
    omega

theorem finiteLeWhole_zero {negative : Bool} {m : Nat} {e : Int} :
    finiteLeWhole negative m e 0 = true ↔ (negative = false → m = 0) := by
  have hscale := twoPow_pos e.toNat
  rw [finiteLeWhole, Int.zero_mul, decide_eq_true_eq]
  cases negative
  · simp only [Bool.false_eq_true, if_false, forall_const]
    generalize Numeral.twoPow e.toNat = s at hscale
    rw [← Int.natCast_zero, Int.ofNat_le, Nat.le_zero, Nat.mul_eq_zero]
    omega
  · exact iff_of_true (Int.neg_nonpos_of_nonneg (Int.natCast_nonneg _)) nofun

theorem zero_le_real_iff {x : Float} : (0 : Number) ≤ .real x ↔ 0 ≤ x := by
  change leBool (.whole 0) (.real x) = true ↔ _
  rw [leBool, le_iff, unpack_zero, parts_eq_ofUnpacked]
  cases x.toModel.unpack with
  | notANumber => decide
  | infinity s => cases s <;> decide
  | zero s => exact iff_of_true (wholeLeFinite_zero.2 fun _ => rfl) rfl
  | finite s m e h =>
      refine wholeLeFinite_zero.trans ?_
      rw [compare_zero_finite]
      cases isMinus s with
      | false => exact iff_of_true nofun rfl
      | true => exact iff_of_false (fun hm => Nat.ne_of_gt h (hm rfl)) (by decide)

theorem real_le_zero_iff {x : Float} : Number.real x ≤ 0 ↔ x ≤ 0 := by
  change leBool (.real x) (.whole 0) = true ↔ _
  rw [leBool, le_iff, unpack_zero, parts_eq_ofUnpacked]
  cases x.toModel.unpack with
  | notANumber => decide
  | infinity s => cases s <;> decide
  | zero s => exact iff_of_true (finiteLeWhole_zero.2 fun _ => rfl) rfl
  | finite s m e h =>
      refine finiteLeWhole_zero.trans ?_
      rw [compare_finite_zero]
      cases isMinus s with
      | false => exact iff_of_false (fun hm => Nat.ne_of_gt h (hm rfl)) (by decide)
      | true => exact iff_of_true nofun rfl

theorem isNan_real_iff {x : Float} : (Number.real x).IsNan ↔ parts x = .nan :=
  ⟨fun ⟨_, h, hnan⟩ => Number.real.inj h ▸ hnan, fun h => ⟨x, rfl, h⟩⟩

theorem not_isNan_whole (n : Int) : ¬(Number.whole n).IsNan := fun ⟨_, h, _⟩ => nomatch h

theorem zero_lt_iff {n : Number} : 0 < n ↔ 0 ≤ n ∧ ¬n ≤ 0 := by
  show (leBool 0 n && !leBool n 0) = true ↔ leBool 0 n = true ∧ ¬leBool n 0 = true
  rw [Bool.and_eq_true, Bool.not_eq_true', Bool.not_eq_true]

/-- What passes for not being below zero. -/
theorem isNegative_eq_false_iff {n : Number} : n.isNegative = false ↔ n.IsNan ∨ 0 ≤ n := by
  cases n with
  | whole n =>
      rw [or_iff_right (not_isNan_whole n), zero_le_whole_iff, isNegative, decide_eq_false_iff_not]
      omega
  | real x =>
      rw [isNan_real_iff, zero_le_real_iff, isNegative, decide_eq_false_iff_not, not_neg_iff]

/-- What passes for not being zero or below. -/
theorem isNotAboveZero_eq_false_iff {n : Number} :
    n.isNotAboveZero = false ↔ n.IsNan ∨ 0 < n := by
  rw [zero_lt_iff]
  cases n with
  | whole n =>
      rw [or_iff_right (not_isNan_whole n), zero_le_whole_iff, isNotAboveZero,
        decide_eq_false_iff_not]
      show _ ↔ 0 ≤ n ∧ ¬decide (n ≤ 0) = true
      rw [decide_eq_true_eq]
      omega
  | real x =>
      rw [isNan_real_iff, zero_le_real_iff, real_le_zero_iff, isNotAboveZero,
        decide_eq_false_iff_not]
      exact not_le_zero_iff

end ChipEight.Number
