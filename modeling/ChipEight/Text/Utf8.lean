import ChipEight.Text.Quoted

/-!
# Reading UTF-8

Bytes are read one character at a time. Where they are no character, the bad
part is the longest beginning that could still have become one, or a single byte
if there is none. A reader either refuses the first bad part, with its place and
what is wrong with it, or drops every bad part and goes on behind it.
-/

namespace ChipEight.Text.Utf8

/-- What is wrong with bytes that are no character. -/
inductive Defect where
  | startByte
  | continuationByte
  | unexpectedEnd
  deriving DecidableEq, Repr

/-- The words for a defect. -/
def Defect.message : Defect → String
  | startByte => "invalid start byte"
  | continuationByte => "invalid continuation byte"
  | unexpectedEnd => "unexpected end of data"

/-- What the first bytes are: a character, or so many bytes that are none. -/
inductive Reading where
  | char (c : Char) (length : Nat)
  | bad (length : Nat) (defect : Defect)

/-- The range of the second byte behind a first byte. It keeps out overlong
forms, surrogates and what lies past the last code point. -/
def secondRange (first : UInt8) : UInt8 × UInt8 :=
  if first = 0xE0 then (0xA0, 0xBF)
  else if first = 0xED then (0x80, 0x9F)
  else if first = 0xF0 then (0x90, 0xBF)
  else if first = 0xF4 then (0x80, 0x8F)
  else (0x80, 0xBF)

/-- The length of a character by its first byte, and that byte's part of the
code point. -/
def lead? (b : UInt8) : Option (Nat × Nat) :=
  if b < 0x80 then some (1, b.toNat)
  else if b < 0xC2 then none
  else if b < 0xE0 then some (2, b.toNat - 0xC0)
  else if b < 0xF0 then some (3, b.toNat - 0xE0)
  else if b < 0xF5 then some (4, b.toNat - 0xF0)
  else none

/-- Reads the bytes behind the first: `left` of them are missing, `done` have
been read and make up `code`. -/
def readTail (range : UInt8 × UInt8) : Nat → Nat → Nat → List UInt8 → Reading
  | 0, done, code, _ => .char (Char.ofNat code) done
  | _ + 1, done, _, [] => .bad done .unexpectedEnd
  | left + 1, done, code, b :: rest =>
      if range.1 ≤ b && b ≤ range.2 then
        readTail (0x80, 0xBF) left (done + 1) (code * 64 + (b.toNat - 0x80)) rest
      else .bad done .continuationByte

/-- Reads the first bytes of a text that is not empty. -/
def read (first : UInt8) (rest : List UInt8) : Reading :=
  match lead? first with
  | none => .bad 1 .startByte
  | some (length, code) => readTail (secondRange first) (length - 1) 1 code rest

/-- How many bytes a reading takes. -/
def Reading.length : Reading → Nat
  | char _ length => length
  | bad length _ => length

/-- A defect with its place and the bytes concerned. -/
structure Failure where
  position : Nat
  bytes : List UInt8
  defect : Defect
  deriving DecidableEq, Repr

/-- The one sentence that says what is wrong where. -/
def Failure.message (f : Failure) : String :=
  let place :=
    match f.bytes with
    | [b] =>
        "byte 0x" ++ lowHex 2 b.toNat ++ " in position " ++ Numeral.decimal f.position
    | bs =>
        "bytes in position " ++ Numeral.decimal f.position ++ "-"
          ++ Numeral.decimal (f.position + bs.length - 1)
  "'utf-8' codec can't decode " ++ place ++ ": " ++ f.defect.message

/-- The characters of a text that begins at `position`, or its first defect.
Each character takes at least one byte, so as many rounds as bytes suffice. -/
def decodeFrom : Nat → Nat → List UInt8 → Except Failure (List Char)
  | 0, _, _ => .ok []
  | _ + 1, _, [] => .ok []
  | rounds + 1, position, b :: rest =>
      match read b rest with
      | .char c length => do
          return c :: (← decodeFrom rounds (position + length) ((b :: rest).drop length))
      | .bad length defect => .error ⟨position, (b :: rest).take length, defect⟩

/-- The characters of a text, or its first defect. -/
def decode (bs : List UInt8) : Except Failure (List Char) :=
  decodeFrom bs.length 0 bs

/-- The characters of a text without its bad parts. -/
def decodeDropping : Nat → List UInt8 → List Char
  | 0, _ => []
  | _ + 1, [] => []
  | rounds + 1, b :: rest =>
      match read b rest with
      | .char c length => c :: decodeDropping rounds ((b :: rest).drop length)
      | .bad length _ => decodeDropping rounds ((b :: rest).drop length)

/-- The characters of a text without its bad parts. -/
def decodeValid (bs : List UInt8) : List Char := decodeDropping bs.length bs

/-- The bytes of a text. -/
def encode (s : String) : List UInt8 := s.toUTF8.toList

end ChipEight.Text.Utf8
