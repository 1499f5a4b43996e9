import ChipEight.Numeral.Fixed
import ChipEight.Numeral.Shortest

/-!
# Numbers that are whole or real

A number from a configuration or an option is either an unbounded integer or a
double, and which of the two it is shows when it is written. Arithmetic on a
mixture happens in doubles, and fails where an integer is too great for one.
-/

namespace ChipEight

/-- An integer of any size or a double. -/
inductive Number where
  | whole (n : Int)
  | real (x : Float)
  deriving Inhabited

/-- The causes for which a calculation has no result. -/
inductive ArithmeticFault where
  /-- An integer was divided by the integer zero. -/
  | divisionByZero
  /-- A number was divided by the double zero. -/
  | realDivisionByZero
  /-- The quotient of two integers lies beyond the finite doubles. -/
  | quotientTooLarge
  /-- An integer lies beyond the finite doubles. -/
  | integerTooLarge
  deriving DecidableEq, Repr

/-- The one sentence that says what happened. -/
def ArithmeticFault.message : ArithmeticFault → String
  | divisionByZero => "division by zero"
  | realDivisionByZero => "float division by zero"
  | quotientTooLarge => "integer division result too large for a float"
  | integerTooLarge => "int too large to convert to float"

namespace Number

/-- The number as a double. -/
def toReal : Number → Except ArithmeticFault Float
  | real x => .ok x
  | whole n =>
      match Numeral.Binary64.ofInt? n with
      | some x => .ok x
      | none => .error .integerTooLarge

/-- Whether the number is greater than zero. -/
def isPositive : Number → Bool
  | whole n => 0 < n
  | real x => 0 < x

/-- Whether the number is less than zero. -/
def isNegative : Number → Bool
  | whole n => n < 0
  | real x => x < 0

/-- Whether the number is zero or less. -/
def isNotAboveZero : Number → Bool
  | whole n => n ≤ 0
  | real x => x ≤ 0

/-- Whether an integer does not exceed `±m · 2^e`. -/
def wholeLeFinite (n : Int) (negative : Bool) (m : Nat) (e : Int) : Bool :=
  let scaled : Int := (m * Numeral.twoPow e.toNat : Nat)
  n * (Numeral.twoPow (-e).toNat : Nat) ≤ if negative then -scaled else scaled

/-- Whether `±m · 2^e` does not exceed an integer. -/
def finiteLeWhole (negative : Bool) (m : Nat) (e : Int) (n : Int) : Bool :=
  let scaled : Int := (m * Numeral.twoPow e.toNat : Nat)
  (if negative then -scaled else scaled) ≤ n * (Numeral.twoPow (-e).toNat : Nat)

/-- The order of numbers, exact also between an integer and a double. -/
def leBool : Number → Number → Bool
  | whole a, whole b => a ≤ b
  | real x, real y => x ≤ y
  | whole a, real y =>
      match Numeral.Binary64.parts y with
      | .nan => false
      | .infinite negative => !negative
      | .finite negative m e => wholeLeFinite a negative m e
  | real x, whole b =>
      match Numeral.Binary64.parts x with
      | .nan => false
      | .infinite negative => negative
      | .finite negative m e => finiteLeWhole negative m e b

instance : LE Number := ⟨fun a b => leBool a b = true⟩

instance : DecidableLE Number := fun a b => inferInstanceAs (Decidable (leBool a b = true))

/-- Whether a number is less than another. Nothing is less or greater than NaN. -/
def ltBool (a b : Number) : Bool := leBool a b && !leBool b a

instance : LT Number := ⟨fun a b => ltBool a b = true⟩

instance : DecidableLT Number := fun a b => inferInstanceAs (Decidable (ltBool a b = true))

instance : OfNat Number 0 := ⟨whole 0⟩

/-- The number with its sign turned. -/
def neg : Number → Number
  | whole n => whole (-n)
  | real x => real (-x)

instance : Neg Number := ⟨neg⟩

/-- The number's text: decimal digits, or a double in the given style. -/
def text (style : Numeral.RealStyle) : Number → String
  | whole n => Numeral.decimal n
  | real x => style.text x

/-- The quotient of two integers, rounded once. A zero quotient is negative
exactly when the signs differ. -/
def quotient (a b : Int) : Except ArithmeticFault Float :=
  if b = 0 then .error .divisionByZero
  else
    match Numeral.Binary64.nearest? ((a < 0) != (b < 0)) a.natAbs b.natAbs with
    | some x => .ok x
    | none => .error .quotientTooLarge

/-- The sum of two numbers: exact for integers, of doubles otherwise. -/
def sum : Number → Number → Except ArithmeticFault Number
  | whole a, whole b => .ok (whole (a + b))
  | a, b => do return real ((← a.toReal) + (← b.toReal))

/-- The difference of two numbers: exact for integers, of doubles otherwise. -/
def difference : Number → Number → Except ArithmeticFault Number
  | whole a, whole b => .ok (whole (a - b))
  | a, b => do return real ((← a.toReal) - (← b.toReal))

/-- The ratio of two numbers, as a double. -/
def ratio : Number → Number → Except ArithmeticFault Float
  | whole a, whole b => quotient a b
  | a, b => do
      let x ← a.toReal
      let y ← b.toReal
      if y == 0.0 then throw .realDivisionByZero
      return x / y

/-- How many hundredths one count is of another. -/
def percentage (part whole : Int) : Except ArithmeticFault Float :=
  (quotient part whole).map (· * 100)

end Number

end ChipEight
