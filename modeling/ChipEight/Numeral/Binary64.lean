import ChipEight.Numeral.Power

/-!
# Doubles as exact numbers

A finite double is `±m · 2^e`. This module takes a double apart into these
parts and, the other way, rounds a quotient of natural numbers to the nearest
double, a tie going to the even mantissa. Reading a decimal, converting an
integer and dividing two integers are all this one rounding.
-/

namespace ChipEight.Numeral

/-- The natural number nearest to a quotient, a tie going to the even one. -/
def roundQuotient (num den : Nat) : Nat :=
  let q := num / den
  let r := num % den
  if 2 * r < den then q
  else if den < 2 * r then q + 1
  else q + q % 2

namespace Binary64

/-- What a double stands for. -/
inductive Parts where
  | nan
  | infinite (negative : Bool)
  | finite (negative : Bool) (mantissa : Nat) (exponent : Int)
  deriving DecidableEq, Repr

/-- The parts written in sixty-four bits. -/
def Parts.ofBits (bits : UInt64) : Parts :=
  let n := bits.toNat
  let negative := bits >>> 63 == 1
  let biased : Nat := n / twoPow 52 % twoPow 11
  let fraction : Nat := n % twoPow 52
  if biased = 2047 then (if fraction = 0 then infinite negative else nan)
  else if biased = 0 then finite negative fraction (-1074)
  else finite negative (twoPow 52 + fraction) ((biased : Int) - 1075)

/-- The parts of a double. -/
def parts (x : Float) : Parts := Parts.ofBits x.toBits

/-- The quotient `num · 2^-e / den` as a quotient of natural numbers. -/
def scaleDown (num den : Nat) (e : Int) : Nat × Nat :=
  if 0 ≤ e then (num, den * twoPow e.toNat) else (num * twoPow (-e).toNat, den)

/-- The greatest power of two, as its exponent, that a positive quotient reaches. -/
def floorLog (num den : Nat) : Int :=
  let k := (num.log2 : Int) - den.log2
  let (a, b) := scaleDown num den k
  if b ≤ a then k else k - 1

/-- The bits of the double nearest to a positive quotient. A mantissa that
rounds up to the next power of two carries into the exponent by itself, and
bits past the greatest finite double mean that there is none. -/
def nearestBits (num den : Nat) : Nat :=
  let e := max (-1074) (floorLog num den - 52)
  let (a, b) := scaleDown num den e
  (e + 1074).toNat * twoPow 52 + roundQuotient a b

/-- The first bits that no finite double has. -/
def infinityBits : Nat := 2047 * twoPow 52

/-- The bit that says minus. -/
def signBit (negative : Bool) : Nat := if negative then twoPow 63 else 0

/-- The double nearest to `±num / den`, unless it lies beyond the finite ones. -/
def nearest? (negative : Bool) (num den : Nat) : Option Float :=
  let bits := if num = 0 then 0 else nearestBits num den
  if bits < infinityBits then
    some (Float.ofBits (UInt64.ofNat (signBit negative + bits)))
  else none

/-- Infinity with a sign. -/
def infinity (negative : Bool) : Float :=
  Float.ofBits (UInt64.ofNat (signBit negative + infinityBits))

/-- A number that is none. -/
def nan : Float := Float.ofBits (UInt64.ofNat (infinityBits + twoPow 51))

/-- The double nearest to an integer. -/
def ofInt? (n : Int) : Option Float := nearest? (n < 0) n.natAbs 1

/-- The double nearest to `±digits · 10^e`. What is too great becomes infinite,
and an exponent so low that nothing but zero is left is not computed with. -/
def ofDecimal (negative : Bool) (digits : Nat) (e : Int) : Float :=
  if digits = 0 then Float.ofBits (UInt64.ofNat (signBit negative))
  else if 400 < e then infinity negative
  else if (digits.log2 : Int) + 1 + 3 * e < -1100 then
    Float.ofBits (UInt64.ofNat (signBit negative))
  else
    let rounded :=
      if 0 ≤ e then nearest? negative (digits * tenPow e.toNat) 1
      else nearest? negative digits (tenPow (-e).toNat)
    rounded.getD (infinity negative)

end Binary64

end ChipEight.Numeral
