import ChipEight.Json.Writer

/-!
# Frames as text

Two rows of pixels share one line of text: each character shows a pixel of the
upper row and the pixel below it. If the number of rows is odd, the last line
has nothing below. A pixel is on when its byte is not zero.

A buffer is drawn only if its size is that of the frame; width and height may be
any integers as long as their product is that size. Where there are rows at all
the width is then not negative.
-/

namespace ChipEight.HalfBlock

/-- The character for an upper and a lower pixel. -/
def glyph : Bool → Bool → Char
  | false, false => ' '
  | true, false => '▀'
  | false, true => '▄'
  | true, true => '█'

/-- A buffer whose size is not that of the frame. -/
structure SizeMismatch where
  size : Nat
  expected : Int
  deriving DecidableEq, Repr

/-- The one sentence that says what happened, or that the expected size has too many digits
to be written in it. -/
def SizeMismatch.message (m : SizeMismatch) : String :=
  if Json.isTooLong m.expected then Json.tooLong
  else
    "framebuffer has " ++ Numeral.decimal m.size ++ " bytes, expected "
      ++ Numeral.decimal m.expected

/-- Why a frame is not drawn. -/
inductive Fault
  | size (mismatch : SizeMismatch)
  /-- A row has no pixel at a column. -/
  | noPixel
  deriving DecidableEq, Repr

/-- The one sentence that says what happened. -/
def Fault.message : Fault → String
  | .size mismatch => mismatch.message
  | .noPixel => "index out of range"

/-- One row of pixels of a buffer. -/
def row (width : Nat) (buffer : Array UInt8) (y : Nat) : Array UInt8 :=
  buffer.extract (y * width) ((y + 1) * width)

/-- The row below another, or nothing but pixels that are off below the last one. -/
def rowBelow (width height : Nat) (buffer : Array UInt8) (y : Nat) : Array UInt8 :=
  if y + 1 < height then row width buffer (y + 1) else Array.replicate width 0

/-- Whether a pixel of a row is on. -/
def pixel (row : Array UInt8) (x : Nat) : Except Fault Bool :=
  match row[x]? with
  | some b => .ok (b != 0)
  | none => .error .noPixel

/-- The character for a column of two rows. -/
def charOf (top bottom : Array UInt8) (x : Nat) : Except Fault Char := do
  return glyph (← pixel top x) (← pixel bottom x)

/-- One line of text. -/
def lineOf (width : Nat) (top bottom : Array UInt8) : Except Fault String :=
  ((List.range width).mapM (charOf top bottom)).map String.ofList

/-- The upper rows of the lines from a row on, with so many rows left. -/
def upperRows (y : Nat) : (left : Nat) → List Nat
  | 0 => []
  | 1 => [y]
  | left + 2 => y :: upperRows (y + 2) left

/-- The lines of a frame. -/
def lines (width height : Int) (buffer : List UInt8) : Except Fault (List String) :=
  if buffer.length = width * height then
    let width := width.toNat
    let height := height.toNat
    let cells := buffer.toArray
    (upperRows 0 height).mapM fun y =>
      lineOf width (row width cells y) (rowBelow width height cells y)
  else .error (.size ⟨buffer.length, width * height⟩)

/-- A block of text with the style it is shown in. -/
structure Block where
  text : String
  style : String
  noWrap : Bool
  deriving DecidableEq, Repr

/-- The style of the screen. -/
def screenStyle : String := "bright_green"

/-- A frame of the display's size as one block that is never wrapped. -/
def block (buffer : List UInt8) : Except Fault Block :=
  (lines 64 32 buffer).map fun ls => ⟨String.intercalate "\n" ls, screenStyle, true⟩

end ChipEight.HalfBlock
