/-!
# The built-in glyphs

One glyph per hexadecimal digit, five rows of four pixels in the high nibbles.
The table lies at a fixed address, and a glyph's address follows from its digit
without a check: past the last digit it points past the table.
-/

namespace ChipEight.Font

/-- Where the table is loaded. -/
def offset : Nat := 0x50

/-- Rows of one glyph. -/
def glyphSize : Nat := 5

/-- The rows of all sixteen glyphs. -/
def table : List UInt8 := [
  0xF0, 0x90, 0x90, 0x90, 0xF0,  -- 0
  0x20, 0x60, 0x20, 0x20, 0x70,  -- 1
  0xF0, 0x10, 0xF0, 0x80, 0xF0,  -- 2
  0xF0, 0x10, 0xF0, 0x10, 0xF0,  -- 3
  0x90, 0x90, 0xF0, 0x10, 0x10,  -- 4
  0xF0, 0x80, 0xF0, 0x10, 0xF0,  -- 5
  0xF0, 0x80, 0xF0, 0x90, 0xF0,  -- 6
  0xF0, 0x10, 0x20, 0x40, 0x40,  -- 7
  0xF0, 0x90, 0xF0, 0x90, 0xF0,  -- 8
  0xF0, 0x90, 0xF0, 0x10, 0xF0,  -- 9
  0xF0, 0x90, 0xF0, 0x90, 0x90,  -- A
  0xE0, 0x90, 0xE0, 0x90, 0xE0,  -- B
  0xF0, 0x80, 0x80, 0x80, 0xF0,  -- C
  0xE0, 0x90, 0x90, 0x90, 0xE0,  -- D
  0xF0, 0x80, 0xF0, 0x80, 0xF0,  -- E
  0xF0, 0x80, 0xF0, 0x80, 0x80]  -- F

/-- The address of a digit's first row. -/
def glyphAddress (digit : Int) : Int := offset + digit * glyphSize

theorem length_table : table.length = 16 * glyphSize := rfl

end ChipEight.Font
