/-!
# Texts of code points

An escape may write half of a surrogate pair and leave out the other half. Such a
half is no character, but it is a code point, and texts that differ in it are
different texts. So what is read of a text with escapes is kept as code points;
a text of characters is one of them.
-/

namespace ChipEight.Text

/-- A character, or a half of a surrogate pair that stands alone. -/
inductive CodePoint where
  | char (c : Char)
  /-- The half at a place among all halves. -/
  | half (place : Fin 0x800)
  deriving DecidableEq, Repr

namespace CodePoint

/-- The code of a code point. -/
def code : CodePoint → Nat
  | char c => c.toNat
  | half place => 0xD800 + place

/-- The code point of a code. -/
def ofCode (n : Nat) : CodePoint :=
  if h : 0xD800 ≤ n ∧ n ≤ 0xDFFF then half ⟨n - 0xD800, by omega⟩ else char (Char.ofNat n)

/-- Whether a code point is a character of some kind. -/
def isChar (kind : Char → Bool) : CodePoint → Bool
  | char c => kind c
  | half _ => false

instance : LT CodePoint := ⟨fun a b => a.code < b.code⟩

instance (a b : CodePoint) : Decidable (a < b) :=
  inferInstanceAs (Decidable (a.code < b.code))

end CodePoint

/-- A text of code points. -/
abbrev Points := List CodePoint

/-- The code points of a text of characters. -/
def points (s : String) : Points := s.toList.map .char

instance : Coe Char CodePoint := ⟨.char⟩

instance : Coe String Points := ⟨points⟩

end ChipEight.Text
