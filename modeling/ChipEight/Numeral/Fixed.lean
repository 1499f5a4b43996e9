import ChipEight.Numeral.Binary64
import ChipEight.Numeral.Hex
import ChipEight.Numeral.Power

/-!
# Doubles with a fixed number of places

The exact binary value is rounded to so many decimals, a tie going to the even
last digit. The sign is kept even where nothing but zero is left of the number.
-/

namespace ChipEight.Numeral

/-- The natural number nearest to `m · 2^e · 10^places`. -/
def scaledMagnitude (places m : Nat) (e : Int) : Nat :=
  let num := m * tenPow places
  if 0 ≤ e then num * twoPow e.toNat else roundQuotient num (twoPow (-e).toNat)

/-- Digits with a point before the last `places` of them. -/
def pointed (places n : Nat) : String :=
  let ds := (Text.padLeft (places + 1) n.repr '0').toList
  let front := ds.length - places
  let back := ds.drop front
  String.ofList (ds.take front ++ if back.isEmpty then [] else '.' :: back)

/-- A double with exactly `places` decimals. -/
def fixed (places : Nat) (x : Float) : String :=
  match Binary64.parts x with
  | .nan => "nan"
  | .infinite negative => if negative then "-inf" else "inf"
  | .finite negative m e =>
      (if negative then "-" else "") ++ pointed places (scaledMagnitude places m e)

end ChipEight.Numeral
