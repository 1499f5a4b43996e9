/-!
# The display

Sixty-four columns by thirty-two rows of cells that are on or off. A sprite is
eight columns wide; each of its set bits turns one cell over, and both axes
wrap, so coordinates may be any integers.

Drawing is a fold: `spriteCells` lists the cells that a sprite turns over, in
drawing order, and `turnAll` turns them one after the other. A cell that is
listed twice is turned twice.
-/

namespace ChipEight

/-- The cells of the display, row by row. -/
structure Display where
  cells : Vector Bool 2048
  deriving DecidableEq

namespace Display

/-- Columns. -/
def width : Nat := 64

/-- Rows. -/
def height : Nat := 32

/-- All cells off. -/
def blank : Display := ⟨Vector.replicate 2048 false⟩

/-- Whether a cell is on; there are no cells past the last. -/
def isOn (d : Display) (i : Nat) : Bool := d.cells[i]?.getD false

/-- The display with one cell turned over. -/
def turn (d : Display) (i : Nat) : Display :=
  ⟨d.cells.setIfInBounds i (!d.isOn i)⟩

/-- The number of the cell at a column and a row, both taken around the edges. -/
def cellAt (x y : Int) : Nat := ((y % 32) * 64 + x % 64).toNat

theorem cellAt_lt (x y : Int) : cellAt x y < 2048 := by
  simp only [cellAt]
  omega

/-- The cell's value as devices see it: 255 on, 0 off. -/
def level (on : Bool) : UInt8 := if on then 255 else 0

/-- The value of the cell at a column and a row. -/
def pixel (d : Display) (x y : Int) : UInt8 := level (d.isOn (cellAt x y))

/-- The columns of a sprite row whose bits are set, leftmost first. -/
def setColumns (row : UInt8) : List Nat :=
  (List.range 8).filter fun c => row.toNat.testBit (7 - c)

/-- The cells one sprite row turns over. -/
def rowCells (x y : Int) (row : UInt8) : List Nat :=
  (setColumns row).map fun (c : Nat) => cellAt (x + c) y

/-- The cells a sprite turns over, top row first and each row from the left. -/
def spriteCells (x y : Int) : List UInt8 → List Nat
  | [] => []
  | row :: rows => rowCells x y row ++ spriteCells x (y + 1) rows

/-- Turns cells over one after the other and tells whether one of them was on
when its turn came. -/
def turnAll (d : Display) (hit : Bool) : List Nat → Display × Bool
  | [] => (d, hit)
  | i :: rest =>
      let on := d.isOn i
      turnAll (d.turn i) (hit || on) rest

/-- Draws a sprite; the answer tells whether a cell was turned off. -/
def drawSprite (d : Display) (x y : Int) (rows : List UInt8) : Display × Bool :=
  d.turnAll false (spriteCells x y rows)

/-- How many cells are on. -/
def litCount (d : Display) : Nat := d.cells.toList.count true

/-- All cells as devices see them, row by row. -/
def snapshot (d : Display) : List UInt8 := d.cells.toList.map level

end Display

end ChipEight
