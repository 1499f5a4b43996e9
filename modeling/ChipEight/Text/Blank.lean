/-!
# Blanks

The characters that may surround a number: the six blanks of ASCII and the
blanks of all scripts. Between words the four separator controls of ASCII count as
blanks as well.
-/

namespace ChipEight.Text

/-- Blanks outside ASCII. -/
def wideBlanks : List Nat := [
  0x85, 0xA0, 0x1680, 0x2000, 0x2001, 0x2002, 0x2003, 0x2004, 0x2005, 0x2006,
  0x2007, 0x2008, 0x2009, 0x200A, 0x2028, 0x2029, 0x202F, 0x205F, 0x3000]

/-- Whether a character may stand around a number. -/
def isBlank (c : Char) : Bool :=
  c == ' ' || (9 ≤ c.toNat && c.toNat ≤ 13) || wideBlanks.contains c.toNat

/-- Whether a character may stand between words. -/
def isSpace (c : Char) : Bool := isBlank c || (0x1C ≤ c.toNat && c.toNat ≤ 0x1F)

/-- A text without what may stand between words at its end. -/
def trimEnd (cs : List Char) : List Char := (cs.reverse.dropWhile isSpace).reverse

/-- A text without what may stand between words at both its ends. -/
def trimSpaces (cs : List Char) : List Char := trimEnd (cs.dropWhile isSpace)

/-- The words of a text. -/
def splitSpaces (cs : List Char) : List (List Char) :=
  (cs.splitOnP isSpace).filter fun w => !w.isEmpty

/-- A text without the blanks at both its ends. -/
def trimBlanks (cs : List Char) : List Char :=
  ((cs.dropWhile isBlank).reverse.dropWhile isBlank).reverse

end ChipEight.Text
