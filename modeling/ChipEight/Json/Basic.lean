import ChipEight.Dictionary
import ChipEight.Numeral.Number
import ChipEight.Text.Points

/-!
# JSON values

Numbers keep whether they were written as integers or as reals. The members of
an object keep the order in which their names first came up, and a name that
comes up again replaces the value in its first place. Strings and names are texts
of code points.
-/

namespace ChipEight

open Text (Points)

/-- A JSON value. -/
inductive Json where
  | null
  | bool (b : Bool)
  | number (n : Number)
  | string (s : Points)
  | array (items : List Json)
  | object (members : List (Points × Json))
  deriving Inhabited

namespace Json

/-- Members of an object, in order. -/
abbrev Members := Dictionary Points Json

/-- Members in which each name comes up once. -/
def Members.collect (written : Members) : Members :=
  written.foldl (fun ms m => ms.put m.1 m.2) []

/-- An integer. -/
def int (n : Int) : Json := number (.whole n)

/-- How a double is written: like plain text, with names of its own for what is
no finite number. -/
def realStyle : Numeral.RealStyle := { Numeral.RealStyle.plain with
  nan := "NaN"
  infinity := "Infinity" }

/-- The greatest number of digits of an integer. -/
def maxDigits : Nat := 4300

/-- The blanks between tokens. -/
def isBlank (c : Char) : Bool := c == ' ' || c == '\t' || c == '\n' || c == '\r'

/-- The letter behind the backslash for the characters that have one. -/
def shortEscape? (c : Char) : Option Char :=
  if c = '"' then some '"'
  else if c = '\\' then some '\\'
  else if c = '\n' then some 'n'
  else if c = '\r' then some 'r'
  else if c = '\t' then some 't'
  else if c = Char.ofNat 12 then some 'f'
  else if c = Char.ofNat 8 then some 'b'
  else none

/-- The character a letter behind a backslash stands for. -/
def unescape? (c : Char) : Option Char :=
  if c = '"' then some '"'
  else if c = '\\' then some '\\'
  else if c = '/' then some '/'
  else if c = 'n' then some '\n'
  else if c = 'r' then some '\r'
  else if c = 't' then some '\t'
  else if c = 'f' then some (Char.ofNat 12)
  else if c = 'b' then some (Char.ofNat 8)
  else none

end Json

end ChipEight
