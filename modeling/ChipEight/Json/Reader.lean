import ChipEight.Json.Basic

/-!
# Reading JSON

A recursive reader over the characters of a text. Each part answers with what it
read and the characters behind it, or with what is wrong and how many characters
were left at the place where it is wrong; the place is found from that at the
end.

The grammar is that of JSON with three more numbers, `NaN`, `Infinity` and
`-Infinity`. A real too great for a double is infinite. An integer may have at
most 4300 digits. How deep lists and objects may be nested depends on how many
calls the reader may make inside each other, and so on who calls it.

Escapes may name half of a surrogate pair. Two halves that belong together are
one character; a half alone stays what it is.
-/

namespace ChipEight.Json

open Text (CodePoint Points)

/-- What is wrong at a place of a text. -/
inductive Problem where
  | expectingValue
  | expectingName
  | expectingColon
  | expectingComma
  | unterminatedString
  | controlCharacter
  | badEscape
  | badUnicodeEscape
  | extraData
  | byteOrderMark
  deriving DecidableEq, Repr

/-- The words for a problem. -/
def Problem.message : Problem → String
  | expectingValue => "Expecting value"
  | expectingName => "Expecting property name enclosed in double quotes"
  | expectingColon => "Expecting ':' delimiter"
  | expectingComma => "Expecting ',' delimiter"
  | unterminatedString => "Unterminated string starting at"
  | controlCharacter => "Invalid control character at"
  | badEscape => "Invalid \\escape"
  | badUnicodeEscape => "Invalid \\uXXXX escape"
  | extraData => "Extra data"
  | byteOrderMark => "Unexpected UTF-8 BOM (decode using utf-8-sig)"

/-- What holds other values. -/
inductive Container where
  | list
  | object
  deriving DecidableEq, Repr

/-- The one sentence that says that containers are nested too deeply. -/
def Container.tooDeep : Container → String
  | list =>
      "maximum recursion depth exceeded while decoding a JSON array from a unicode string"
  | object =>
      "maximum recursion depth exceeded while decoding a JSON object from a unicode string"

/-- Why a text was not read. -/
inductive Failure where
  /-- Something is wrong where so many characters were left. -/
  | malformed (problem : Problem) (remaining : Nat)
  /-- An integer has too many digits. -/
  | tooManyDigits (count : Nat)
  /-- A container stands too deep inside others. -/
  | tooDeep (c : Container)
  deriving DecidableEq, Repr

/-- What was read, and the characters behind it. -/
abbrev Parsed (α : Type) := Except Failure (α × List Char)

/-- Reports a problem in front of some characters. -/
def problemAt {α : Type} (p : Problem) (cs : List Char) : Except Failure α :=
  .error (.malformed p cs.length)

/-- The characters behind blanks. -/
def skipBlanks (cs : List Char) : List Char := cs.dropWhile isBlank

/-- Whether a character is an ASCII digit. -/
def isDigit (c : Char) : Bool := '0' ≤ c && c ≤ '9'

/-- The number some decimal digits write. -/
def digitsValue (ds : List Char) : Nat :=
  ds.foldl (fun n c => n * 10 + (c.toNat - '0'.toNat)) 0

/-- The sixteen bits that the next four characters write. -/
def hexUnit? : List Char → Option Nat
  | a :: b :: c :: d :: _ => do
      let a ← Numeral.hexValue? a
      let b ← Numeral.hexValue? b
      let c ← Numeral.hexValue? c
      let d ← Numeral.hexValue? d
      return ((a * 16 + b) * 16 + c) * 16 + d
  | _ => none

/-- The code of two halves that belong together. -/
def joinHalves (high low : Nat) : Nat := 0x10000 + (high - 0xD800) * 0x400 + (low - 0xDC00)

/-- The second half behind a first one, if there is one. -/
def lowHalf? (cs : List Char) : Except Failure (Option Nat) :=
  match cs with
  | '\\' :: 'u' :: digits =>
      if digits.length ≤ 4 then .ok none
      else
        match hexUnit? digits with
        | none => problemAt .badUnicodeEscape ('u' :: digits)
        | some u => .ok (if 0xDC00 ≤ u ∧ u ≤ 0xDFFF then some u else none)
  | _ => .ok none

/-- The code point that the digits behind `\u` name, and how many characters the
rest of the escape takes. Behind the digits something must follow. -/
def unicodeEscape (cs : List Char) : Except Failure (CodePoint × Nat) :=
  if cs.length ≤ 4 then problemAt .badUnicodeEscape ('u' :: cs)
  else
    match hexUnit? cs with
    | none => problemAt .badUnicodeEscape ('u' :: cs)
    | some u =>
        if 0xD800 ≤ u ∧ u ≤ 0xDBFF then do
          match ← lowHalf? (cs.drop 4) with
          | some low => return (.ofCode (joinHalves u low), 10)
          | none => return (.ofCode u, 4)
        else .ok (.ofCode u, 4)

/-- Puts a code point in front of what was read. -/
def consPoint (p : CodePoint) (read : Parsed Points) : Parsed Points :=
  read.map fun (s, rest) => (p :: s, rest)

/-- The code points up to the closing mark of a string; `opening` is what was left
in front of its opening mark. -/
def stringBody (opening : Nat) : List Char → Parsed Points
  | [] => .error (.malformed .unterminatedString opening)
  | '"' :: rest => .ok ([], rest)
  | '\\' :: [] => .error (.malformed .unterminatedString opening)
  | '\\' :: 'u' :: rest =>
      match unicodeEscape rest with
      | .error e => .error e
      | .ok (p, taken) => consPoint p (stringBody opening (rest.drop taken))
  | '\\' :: c :: rest =>
      match unescape? c with
      | none => problemAt .badEscape ('\\' :: c :: rest)
      | some d => consPoint d (stringBody opening rest)
  | c :: rest =>
      if c.toNat < 0x20 then problemAt .controlCharacter (c :: rest)
      else consPoint c (stringBody opening rest)
termination_by cs => cs.length
decreasing_by all_goals (simp; try omega)

/-- A string whose opening mark has been read. -/
def stringAfterMark (rest : List Char) : Parsed Points := stringBody (rest.length + 1) rest

/-- The digits in front of a text, and what is behind them. -/
def spanDigits (cs : List Char) : List Char × List Char :=
  (cs.takeWhile isDigit, cs.dropWhile isDigit)

/-- The decimals behind a whole part: none if no digit follows the point. -/
def fraction (cs : List Char) : List Char × List Char :=
  match cs with
  | '.' :: rest =>
      match spanDigits rest with
      | ([], _) => ([], cs)
      | (ds, rest) => (ds, rest)
  | _ => ([], cs)

/-- A sign in front of an exponent's digits. -/
def exponentSign (cs : List Char) : Bool × List Char :=
  match cs with
  | '-' :: rest => (true, rest)
  | '+' :: rest => (false, rest)
  | _ => (false, cs)

/-- The exponent behind a number, if there is one with digits. -/
def exponent (cs : List Char) : Option Int × List Char :=
  match cs with
  | e :: rest =>
      if e = 'e' ∨ e = 'E' then
        let (negative, digits) := exponentSign rest
        match spanDigits digits with
        | ([], _) => (none, cs)
        | (ds, rest) =>
            (some (if negative then -(digitsValue ds : Int) else digitsValue ds), rest)
      else (none, cs)
  | [] => (none, cs)

/-- The number that a sign, whole digits, decimals and an exponent write. -/
def makeNumber (negative : Bool) (whole decimals : List Char) (e : Option Int) :
    Except Failure Number :=
  match decimals, e with
  | [], none =>
      if maxDigits < whole.length then .error (.tooManyDigits whole.length)
      else
        let n : Int := digitsValue whole
        .ok (.whole (if negative then -n else n))
  | _, _ =>
      .ok (.real (Numeral.Binary64.ofDecimal negative (digitsValue (whole ++ decimals))
        (e.getD 0 - decimals.length)))

/-- The whole digits of a number: a zero stands alone. -/
def wholeDigits (cs : List Char) : List Char × List Char :=
  match cs with
  | '0' :: rest => (['0'], rest)
  | _ => spanDigits cs

/-- A number. -/
def number? (cs : List Char) : Parsed Json :=
  let (negative, unsigned) :=
    match cs with
    | '-' :: rest => (true, rest)
    | _ => (false, cs)
  match wholeDigits unsigned with
  | ([], _) => problemAt .expectingValue cs
  | (whole, rest) =>
      let (decimals, rest) := fraction rest
      let (e, rest) := exponent rest
      (makeNumber negative whole decimals e).map fun n => (number n, rest)

/-- A value that is no list and no object. -/
def scalar (cs : List Char) : Parsed Json :=
  match cs with
  | '"' :: rest => (stringAfterMark rest).map fun (s, rest) => (string s, rest)
  | 'n' :: 'u' :: 'l' :: 'l' :: rest => .ok (null, rest)
  | 't' :: 'r' :: 'u' :: 'e' :: rest => .ok (bool true, rest)
  | 'f' :: 'a' :: 'l' :: 's' :: 'e' :: rest => .ok (bool false, rest)
  | 'N' :: 'a' :: 'N' :: rest => .ok (number (.real Numeral.Binary64.nan), rest)
  | 'I' :: 'n' :: 'f' :: 'i' :: 'n' :: 'i' :: 't' :: 'y' :: rest =>
      .ok (number (.real (Numeral.Binary64.infinity false)), rest)
  | '-' :: 'I' :: 'n' :: 'f' :: 'i' :: 'n' :: 'i' :: 't' :: 'y' :: rest =>
      .ok (number (.real (Numeral.Binary64.infinity true)), rest)
  | _ => number? cs

mutual

/-- A value in front of a text, with room for so many containers inside each
other. -/
def value (room : Nat) : Nat → List Char → Except Failure (Json × List Char)
  | 0, cs => problemAt .expectingValue cs
  | fuel + 1, cs =>
      match cs with
      | '{' :: rest => do
          if room = 0 then throw (.tooDeep .object)
          match skipBlanks rest with
          | '}' :: rest => return (object [], rest)
          | rest =>
              let (members, rest) ← members (room - 1) fuel rest
              return (object (Members.collect members), rest)
      | '[' :: rest => do
          if room = 0 then throw (.tooDeep .list)
          match skipBlanks rest with
          | ']' :: rest => return (array [], rest)
          | rest =>
              let (items, rest) ← items (room - 1) fuel rest
              return (array items, rest)
      | cs => scalar cs

/-- One member or more, and the brace behind them. -/
def members (room : Nat) : Nat → List Char → Except Failure (Members × List Char)
  | 0, cs => problemAt .expectingName cs
  | fuel + 1, cs =>
      match cs with
      | '"' :: rest => do
          let (name, rest) ← stringAfterMark rest
          match skipBlanks rest with
          | ':' :: rest =>
              let (v, rest) ← value room fuel (skipBlanks rest)
              match skipBlanks rest with
              | '}' :: rest => return ([(name, v)], rest)
              | ',' :: rest =>
                  let (more, rest) ← members room fuel (skipBlanks rest)
                  return ((name, v) :: more, rest)
              | rest => problemAt .expectingComma rest
          | rest => problemAt .expectingColon rest
      | cs => problemAt .expectingName cs

/-- One item or more, and the bracket behind them. -/
def items (room : Nat) : Nat → List Char → Except Failure (List Json × List Char)
  | 0, cs => problemAt .expectingValue cs
  | fuel + 1, cs => do
      let (v, rest) ← value room fuel cs
      match skipBlanks rest with
      | ']' :: rest => return ([v], rest)
      | ',' :: rest =>
          let (more, rest) ← items room fuel (skipBlanks rest)
          return (v :: more, rest)
      | rest => problemAt .expectingComma rest

end

/-- The value that the characters of a text write, where there is room for so many
containers inside each other. Every second call takes a character, which bounds the
depth of the calls. -/
def ofChars (room : Nat) (cs : List Char) : Except Failure Json :=
  match cs with
  | '\uFEFF' :: _ => problemAt .byteOrderMark cs
  | _ => do
      let (v, rest) ← value room (2 * cs.length + 2) (skipBlanks cs)
      match skipBlanks rest with
      | [] => return v
      | rest => problemAt .extraData rest

/-- The value that a text writes. -/
def parse (room : Nat) (text : String) : Except Failure Json := ofChars room text.toList

/-- The one sentence that says why a text was not read. -/
def Failure.message (text : String) : Failure → String
  | malformed p remaining =>
      let read := text.toList.take (text.length - remaining)
      let line := read.count '\n' + 1
      let column := (read.reverse.takeWhile (· != '\n')).length + 1
      p.message ++ ": line " ++ Numeral.decimal line ++ " column " ++ Numeral.decimal column
        ++ " (char " ++ Numeral.decimal read.length ++ ")"
  | tooManyDigits count =>
      "Exceeds the limit (" ++ Numeral.decimal maxDigits
        ++ " digits) for integer string conversion: value has " ++ Numeral.decimal count
        ++ " digits; use sys.set_int_max_str_digits() to increase the limit"
  | tooDeep c => c.tooDeep

end ChipEight.Json
