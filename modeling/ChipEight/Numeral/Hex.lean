import ChipEight.Text.Align

/-!
# Whole numbers as text

Decimal, decimal in groups of three, and upper-case hexadecimal of a fixed
width. A negative number is its magnitude behind a minus sign, and the sign
counts towards the width: minus one in four hexadecimal places is `-001`.
-/

namespace ChipEight.Numeral

/-- The magnitude's text behind a minus sign where there is one. -/
def signed (magnitude : Nat → String) (v : Int) : String :=
  if v < 0 then "-" ++ magnitude v.natAbs else magnitude v.natAbs

/-- Decimal digits, without padding. -/
def decimal (v : Int) : String := signed Nat.repr v

/-- Upper-case hexadecimal digits, without padding. -/
def hexDigits (n : Nat) : String :=
  String.ofList ((Nat.toDigits 16 n).map Char.toUpper)

/-- Upper-case hexadecimal in at least `width` places, sign included. -/
def hex (width : Nat) (v : Int) : String :=
  if v < 0 then "-" ++ Text.padLeft (width - 1) (hexDigits v.natAbs) '0'
  else Text.padLeft width (hexDigits v.natAbs) '0'

/-- The value of a hexadecimal digit. -/
def hexValue? (c : Char) : Option Nat :=
  if '0' ≤ c && c ≤ '9' then some (c.toNat - '0'.toNat)
  else if 'a' ≤ c && c ≤ 'f' then some (c.toNat - 'a'.toNat + 10)
  else if 'A' ≤ c && c ≤ 'F' then some (c.toNat - 'A'.toNat + 10)
  else none

/-- The number that hexadecimal digits write; other characters count as zero. -/
def ofHex (s : String) : Nat := s.toList.foldl (fun n c => n * 16 + (hexValue? c).getD 0) 0

/-- Splits digits, written least significant first, by commas into threes. -/
def groupDigits : List Char → List Char
  | a :: b :: c :: d :: rest => a :: b :: c :: ',' :: groupDigits (d :: rest)
  | short => short

/-- Decimal digits in groups of three. -/
def grouped (v : Int) : String :=
  signed (fun n => String.ofList (groupDigits n.repr.toList.reverse).reverse) v

end ChipEight.Numeral
