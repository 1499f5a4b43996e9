import ChipEight.Json.Reader
import ChipEight.Text.Blank
import ChipEight.Text.Digit

/-!
# Reading numbers from options

Integers and reals as a command line takes them: blanks around the number, a
sign, single underscores between digits, and the decimal digits of every script.
An integer may have a base before its digits; without one it is decimal, and
where a base could have stood it has no leading zeros unless it is zero.
-/

namespace ChipEight.Numeral.Reading

/-- A character in its ASCII form, if it has one in numbers. -/
def asciiForm? (c : Char) : Option Char :=
  if c.toNat < 127 then some c
  else if Text.isBlank c then some ' '
  else (Text.digitValue? c).map fun d => Char.ofNat ('0'.toNat + d)

/-- A text in ASCII form and without the blanks around it. -/
def normalize? (s : String) : Option (List Char) :=
  (s.toList.mapM asciiForm?).map Text.trimBlanks

/-- A sign, minus or not, and what is behind it. -/
def splitSign : List Char → Bool × List Char
  | '-' :: rest => (true, rest)
  | '+' :: rest => (false, rest)
  | cs => (false, cs)

/-- The value of a digit in some base up to sixteen. -/
def digitIn? (base : Nat) (c : Char) : Option Nat :=
  (hexValue? c).filter (· < base)

/-- The digits of a number in which underscores stand between digits only. The
first argument tells whether an underscore may come next. -/
def digits? (base : Nat) : Bool → List Char → Option (List Nat)
  | true, [] => some []
  | false, [] => none
  | true, '_' :: rest => digits? base false rest
  | _, c :: rest => do
      let d ← digitIn? base c
      return d :: (← digits? base true rest)

/-- The number some digits write. -/
def value (base : Nat) (ds : List Nat) : Nat := ds.foldl (fun n d => n * base + d) 0

/-- Digits behind a base, which an underscore may separate from it. -/
def afterBase (base : Nat) (cs : List Char) : Option Nat :=
  match cs with
  | '_' :: rest => (digits? base false rest).map (value base)
  | _ => (digits? base false cs).map (value base)

/-- Decimal digits, of which there may not be too many. -/
def decimal? (cs : List Char) : Option (List Nat) :=
  (digits? 10 false cs).filter fun ds => ds.length ≤ Json.maxDigits

/-- A number without a sign whose base its beginning tells. -/
def unsigned? (cs : List Char) : Option Nat :=
  match cs with
  | '0' :: c :: rest =>
      if c = 'x' ∨ c = 'X' then afterBase 16 rest
      else if c = 'o' ∨ c = 'O' then afterBase 8 rest
      else if c = 'b' ∨ c = 'B' then afterBase 2 rest
      else ((decimal? cs).filter fun ds => ds.all (· == 0)).map fun _ => 0
  | _ => (decimal? cs).map (value 10)

/-- An integer behind a sign. -/
def withSign (read : List Char → Option Nat) (s : String) : Option Int := do
  let (negative, cs) := splitSign (← normalize? s)
  let n ← read cs
  return if negative then -(n : Int) else n

/-- An integer in the base that it tells. -/
def anyInteger? (s : String) : Option Int := withSign unsigned? s

/-- A decimal integer, leading zeros and all. -/
def integer? (s : String) : Option Int :=
  withSign (fun cs => (decimal? cs).map (value 10)) s

/-- A text without the underscores in it, which stand between digits only. The
first argument is the character before. -/
def dropUnderscores : Char → List Char → Option (List Char)
  | before, [] => if before = '_' then none else some []
  | before, c :: rest =>
      if c = '_' then
        if Json.isDigit before then dropUnderscores c rest else none
      else if before = '_' && !Json.isDigit c then none
      else (dropUnderscores c rest).map (c :: ·)

/-- A real without a sign that is written with digits. -/
def positional? (negative : Bool) (cs : List Char) : Option Float := do
  let (whole, rest) := Json.spanDigits cs
  let (decimals, rest) :=
    match rest with
    | '.' :: rest => Json.spanDigits rest
    | _ => ([], rest)
  if whole.isEmpty && decimals.isEmpty then none
  let (e, rest) := Json.exponent rest
  if !rest.isEmpty then none
  return Binary64.ofDecimal negative (Json.digitsValue (whole ++ decimals))
    (e.getD 0 - decimals.length)

/-- A double with its sign turned where asked. -/
def signedReal (negative : Bool) (x : Float) : Float := if negative then -x else x

/-- A real. -/
def real? (s : String) : Option Float := do
  let cs ← dropUnderscores '\x00' (← normalize? s)
  let (negative, cs) := splitSign cs
  let word := String.ofList (cs.map Char.toLower)
  if word = "inf" ∨ word = "infinity" then return Binary64.infinity negative
  else if word = "nan" then return signedReal negative Binary64.nan
  else positional? negative cs

end ChipEight.Numeral.Reading
