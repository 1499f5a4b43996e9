import ChipEight.Numeral.Hex
import ChipEight.Text.Points
import ChipEight.Text.Printable

/-!
# Quoted text

A text in quotation marks, as messages show it. Single marks are used unless
the text holds one and no double mark. The mark that is used and the backslash
are escaped, and so is every character that is not printable: the three common
blanks by letter, the others by their code in lower-case hexadecimal, in the
shortest form that holds it. A half of a surrogate pair is escaped like them.
-/

namespace ChipEight.Text

/-- Lower-case hexadecimal in at least `width` places. -/
def lowHex (width n : Nat) : String :=
  padLeft width (String.ofList (Nat.toDigits 16 n)) '0'

/-- The escape of a code point that has no letter. -/
def codeEscape (n : Nat) : String :=
  if n ≤ 0xFF then "\\x" ++ lowHex 2 n
  else if n ≤ 0xFFFF then "\\u" ++ lowHex 4 n
  else "\\U" ++ lowHex 8 n

/-- One character between quotation marks. -/
def quotedChar (mark c : Char) : String :=
  if c = mark ∨ c = '\\' then String.ofList ['\\', c]
  else if c = '\n' then "\\n"
  else if c = '\r' then "\\r"
  else if c = '\t' then "\\t"
  else if isPrintable c then String.ofList [c]
  else codeEscape c.toNat

/-- One code point between quotation marks. -/
def quotedPoint (mark : Char) : CodePoint → String
  | .char c => quotedChar mark c
  | .half place => codeEscape (CodePoint.half place).code

/-- The mark a text is quoted with. -/
def quoteMark (s : Points) : Char :=
  if s.contains (.char '\'') && !s.contains (.char '"') then '"' else '\''

/-- A text in quotation marks. -/
def quoted (s : Points) : String :=
  let mark := quoteMark s
  String.ofList [mark] ++ String.join (s.map (quotedPoint mark)) ++ String.ofList [mark]

/-- A text as a stream takes it, which takes characters alone: halves of surrogate
pairs are escaped. -/
def escaped (s : Points) : String :=
  String.join <| s.map fun
    | .char c => String.ofList [c]
    | .half place => codeEscape (CodePoint.half place).code

end ChipEight.Text
