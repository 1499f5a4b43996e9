import ChipEight.Numeral.Hex

/-!
# Program images

An image is a sequence of bytes without a header. It is loaded behind the part
of memory that belongs to the interpreter and must fit in what is left. The two
ways to find out that it does not are told apart: a loader knows the size of an
image, a reader stops reading one byte past the limit.
-/

namespace ChipEight.Image

/-- The size of the machine's memory. -/
def memorySize : Nat := 4096

/-- Where an image is loaded. -/
def offset : Nat := 0x200

/-- The greatest image. -/
def maxSize : Nat := memorySize - offset

/-- The causes for which an image is refused. -/
inductive Refusal where
  /-- An image of this size does not fit. -/
  | tooLarge (size : Nat)
  /-- Reading found more bytes than fit. -/
  | endless
  /-- The file could not be read. -/
  | unreadable (path reason : String)
  deriving DecidableEq, Repr

/-- The one sentence that says what happened. -/
def Refusal.message : Refusal → String
  | tooLarge size =>
      "program image is too large: " ++ Numeral.decimal size ++ " bytes (maximum "
        ++ Numeral.decimal maxSize ++ ")"
  | endless =>
      "program image is too large: more than " ++ Numeral.decimal maxSize ++ " bytes"
  | unreadable path reason => "cannot read '" ++ path ++ "': " ++ reason

/-- Refuses an image that does not fit. -/
def check (data : List UInt8) : Except Refusal Unit :=
  if data.length ≤ maxSize then .ok () else .error (.tooLarge data.length)

/-- The image in a file with these contents, of which no more is read than it
takes to find them too long. -/
def ofContents (contents : List UInt8) : Except Refusal (List UInt8) :=
  let data := contents.take (maxSize + 1)
  if data.length ≤ maxSize then .ok data else .error .endless

end ChipEight.Image
