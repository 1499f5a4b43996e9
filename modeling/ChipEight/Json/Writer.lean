import ChipEight.Json.Basic
import ChipEight.Numeral.Power
import ChipEight.Text.Quoted

/-!
# Writing JSON

Values are written in ASCII. Code points outside the printable ASCII range become
escapes of sixteen bits, a pair of them where one does not suffice. A layout
with an indentation puts each item and each member on a line of its own; the
layout without one has no blanks at all.
-/

namespace ChipEight.Json

open Text (CodePoint Points)

/-- A single escape of sixteen bits. -/
def unitEscape (u : Nat) : List Char := '\\' :: 'u' :: (Text.lowHex 4 u).toList

/-- The escape of a code point. -/
def codeEscape (n : Nat) : List Char :=
  if n < 0x10000 then unitEscape n
  else
    unitEscape (0xD800 + (n - 0x10000) / 0x400) ++ unitEscape (0xDC00 + (n - 0x10000) % 0x400)

/-- One character between the marks of a string. -/
def charText (c : Char) : List Char :=
  match shortEscape? c with
  | some letter => ['\\', letter]
  | none => if 0x20 ≤ c.toNat ∧ c.toNat ≤ 0x7E then [c] else codeEscape c.toNat

/-- One code point between the marks of a string. -/
def pointText : CodePoint → List Char
  | .char c => charText c
  | .half place => codeEscape (CodePoint.half place).code

/-- A string with its marks. -/
def stringText (s : Points) : List Char := '"' :: (s.flatMap pointText ++ ['"'])

/-- How lists and objects are laid out: the blanks per level, or none at all. -/
abbrev Layout := Option Nat

/-- The break in front of an item at a depth. -/
def Layout.break (l : Layout) (depth : Nat) : List Char :=
  match l with
  | none => []
  | some width => '\n' :: List.replicate (width * depth) ' '

/-- What stands between a name and its value. -/
def Layout.colon (l : Layout) : List Char :=
  match l with
  | none => [':']
  | some _ => [':', ' ']

/-- Texts, each behind a break and separated by commas, between two brackets. -/
def Layout.enclose (l : Layout) (depth : Nat) (opening closing : Char)
    (texts : List (List Char)) : List Char :=
  if texts.isEmpty then [opening, closing]
  else
    opening :: List.intercalate [','] (texts.map (l.break (depth + 1) ++ ·))
      ++ l.break depth ++ [closing]

mutual

/-- The text of a value at a depth. -/
def valueText (l : Layout) (depth : Nat) : Json → List Char
  | null => "null".toList
  | bool true => "true".toList
  | bool false => "false".toList
  | number n => (n.text realStyle).toList
  | string s => stringText s
  | array items => l.enclose depth '[' ']' (itemTexts l (depth + 1) items)
  | object members => l.enclose depth '\x7b' '\x7d' (memberTexts l (depth + 1) members)

/-- The texts of items. -/
def itemTexts (l : Layout) (depth : Nat) : List Json → List (List Char)
  | [] => []
  | v :: rest => valueText l depth v :: itemTexts l depth rest

/-- The texts of members. -/
def memberTexts (l : Layout) (depth : Nat) : List (Points × Json) → List (List Char)
  | [] => []
  | m :: rest => memberText l depth m :: memberTexts l depth rest

/-- The text of one member. -/
def memberText (l : Layout) (depth : Nat) : Points × Json → List Char
  | (name, v) => stringText name ++ l.colon ++ valueText l depth v

end

/-- Whether an integer has too many digits to be written. -/
def isTooLong (n : Int) : Bool := Numeral.tenPow maxDigits ≤ n.natAbs

mutual

/-- What is written of a value in front of its first integer that has too many
digits, if it holds one. -/
def cutValue? (l : Layout) (depth : Nat) : Json → Option (List Char)
  | number (.whole n) => if isTooLong n then some [] else none
  | array items => (cutItems? l (depth + 1) items).map ('[' :: ·)
  | object members => (cutMembers? l (depth + 1) members).map ('\x7b' :: ·)
  | _ => none

/-- What is written of items. -/
def cutItems? (l : Layout) (depth : Nat) : List Json → Option (List Char)
  | [] => none
  | v :: rest =>
      ((cutValue? l depth v).or
        ((cutItems? l depth rest).map fun t => valueText l depth v ++ ',' :: t)).map
        (l.break depth ++ ·)

/-- What is written of members. -/
def cutMembers? (l : Layout) (depth : Nat) : List (Points × Json) → Option (List Char)
  | [] => none
  | m :: rest =>
      ((cutMember? l depth m).or
        ((cutMembers? l depth rest).map fun t => memberText l depth m ++ ',' :: t)).map
        (l.break depth ++ ·)

/-- What is written of one member. -/
def cutMember? (l : Layout) (depth : Nat) : Points × Json → Option (List Char)
  | (name, v) => (cutValue? l depth v).map (stringText name ++ l.colon ++ ·)

end

/-- What is written of a value that holds an integer with too many digits: the text
in front of that integer. -/
def textBeforeTooLong? (l : Layout) (v : Json) : Option String :=
  (cutValue? l 0 v).map String.ofList

/-- The sentence that says that an integer has too many digits to be written. -/
def tooLong : String :=
  "Exceeds the limit (" ++ Numeral.decimal maxDigits
    ++ " digits) for integer string conversion; use sys.set_int_max_str_digits() to "
    ++ "increase the limit"

/-- A value as text. -/
def render (l : Layout) (v : Json) : String := String.ofList (valueText l 0 v)

end ChipEight.Json
