import ChipEight.Numeral.Binary64
import ChipEight.Numeral.Hex
import ChipEight.Numeral.Power

/-!
# The shortest text of a double

A double is written with the fewest decimal digits that read back as itself,
and of those with the nearest, a tie going to the even last digit. Numbers of
ordinary size are written positionally and keep at least one decimal; others
get an exponent.
-/

namespace ChipEight.Numeral

namespace Shortest

/-- The numbers that round to a double: everything from `low / den` to
`high / den`, the ends included where the mantissa is even. `value / den` is the
double itself. -/
structure Interval where
  low : Nat
  value : Nat
  high : Nat
  den : Nat
  closed : Bool

/-- The interval of `m · 2^e`. Below a power of two the neighbours are half as
far away, except where doubles are evenly spaced anyway. -/
def interval (m : Nat) (e : Int) : Interval :=
  let below := if m = twoPow 52 ∧ -1074 < e then 1 else 2
  let up := (e - 2).toNat
  { low := (4 * m - below) * twoPow up
    value := 4 * m * twoPow up
    high := (4 * m + 2) * twoPow up
    den := twoPow (2 - e).toNat
    closed := m % 2 == 0 }

/-- Whether `c · 10^p` rounds to the double. -/
def Interval.contains (i : Interval) (c : Nat) (p : Int) : Bool :=
  let num := c * tenPow p.toNat * i.den
  let scale := tenPow (-p).toNat
  if i.closed then i.low * scale ≤ num && num ≤ i.high * scale
  else i.low * scale < num && num < i.high * scale

/-- The multiples of `10^p` next to the double, below and above, with the
distances in a common unit. -/
def Interval.neighbours (i : Interval) (p : Int) : (Nat × Nat) × (Nat × Nat) :=
  let num := i.value * tenPow (-p).toNat
  let den := i.den * tenPow p.toNat
  let c := num / den
  let r := num % den
  ((c, r), (c + 1, den - r))

/-- The multiple of `10^p` that rounds to the double and lies nearest to it. -/
def Interval.pick? (i : Interval) (p : Int) : Option Nat :=
  let ((a, below), (b, above)) := i.neighbours p
  match i.contains a p, i.contains b p with
  | false, false => none
  | true, false => some a
  | false, true => some b
  | true, true =>
      if below < above then some a
      else if above < below then some b
      else some (a + a % 2)

/-- The greatest `p`, at most `tries` above a lower bound, for which `10^p` does
not exceed the double. -/
def Interval.climb (i : Interval) : Nat → Int → Int
  | 0, p => p
  | tries + 1, p =>
      if tenPow (p + 1).toNat * i.den ≤ i.value * tenPow (-(p + 1)).toNat then
        i.climb tries (p + 1)
      else p

/-- The power of ten of the double's first digit. -/
def Interval.decimalExponent (i : Interval) : Int :=
  let bits := (i.value.log2 : Int) - i.den.log2
  i.climb 4 ((bits - 1) * 30103 / 100000 - 1)

/-- Searches grids of more and more digits for one that has a point in the
interval. Seventeen digits always suffice. -/
def Interval.search (i : Interval) (first : Int) : Nat → Nat → Nat × Int
  | 0, count => ((i.neighbours (first + 1 - count)).1.1, first + 1 - count)
  | more + 1, count =>
      let p := first + 1 - count
      match i.pick? p with
      | some c => (c, p)
      | none => i.search first more (count + 1)

/-- Drops trailing zeros into the exponent. -/
def trim : Nat → Nat → Int → Nat × Int
  | 0, c, p => (c, p)
  | fuel + 1, c, p => if c % 10 = 0 then trim fuel (c / 10) (p + 1) else (c, p)

/-- The shortest `c · 10^p` that reads back as the positive double `m · 2^e`. -/
def digits (m : Nat) (e : Int) : Nat × Int :=
  let i := interval m e
  let (c, p) := i.search i.decimalExponent 17 1
  trim 17 c p

end Shortest

/-- How a format writes doubles: the decimal exponents it writes positionally
are those from `positionalFrom` up to but without `positionalBelow`. -/
structure RealStyle where
  positionalFrom : Int
  positionalBelow : Int
  exponentDigits : Nat
  nan : String
  infinity : String

namespace RealStyle

/-- An exponent, always signed. -/
def exponentText (s : RealStyle) (e : Int) : String :=
  (if e < 0 then "e-" else "e+") ++ Text.padLeft s.exponentDigits e.natAbs.repr '0'

/-- Digits of which the first stands for `10^exponent`. -/
def place (s : RealStyle) (ds : List Char) (exponent : Int) : String :=
  if s.positionalFrom ≤ exponent ∧ exponent < s.positionalBelow then
    if exponent < 0 then
      "0." ++ String.ofList (List.replicate (-exponent - 1).toNat '0' ++ ds)
    else
      let whole := exponent.toNat + 1
      let front := ds.take whole ++ List.replicate (whole - ds.length) '0'
      let back := if ds.length ≤ whole then ['0'] else ds.drop whole
      String.ofList front ++ "." ++ String.ofList back
  else
    match ds with
    | [d] => String.ofList [d] ++ s.exponentText exponent
    | d :: rest => String.ofList (d :: '.' :: rest) ++ s.exponentText exponent
    | [] => s.exponentText exponent

/-- The text of a finite magnitude. -/
def magnitude (s : RealStyle) (m : Nat) (e : Int) : String :=
  if m = 0 then "0.0"
  else
    let (c, p) := Shortest.digits m e
    let ds := c.repr.toList
    s.place ds (p + ds.length - 1)

/-- The text of a double. -/
def text (s : RealStyle) (x : Float) : String :=
  match Binary64.parts x with
  | .nan => s.nan
  | .infinite negative => (if negative then "-" else "") ++ s.infinity
  | .finite negative m e => (if negative then "-" else "") ++ s.magnitude m e

/-- Plain text: positional from one ten-thousandth up to ten to the sixteenth. -/
def plain : RealStyle := ⟨-4, 16, 2, "nan", "inf"⟩

end RealStyle

end ChipEight.Numeral
