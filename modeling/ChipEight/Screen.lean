import ChipEight.Display
import ChipEight.HalfBlock
import ChipEight.Numeral.Number
import ChipEight.Panel

/-!
# The terminal screen

An output device that keeps the latest frame and shows it in a panel when it is
asked to. Beeps ring the terminal's bell, but never twice within a tenth of a
second, however many there are.
-/

namespace ChipEight

/-- A screen with what it has received so far. -/
structure Screen where
  title : String := "CHIP-8"
  status : Option String := none
  bell : Bool := true
  frame : Display := .blank
  frameCount : Nat := 0
  beepCount : Nat := 0
  rings : Nat := 0
  lastBell : Number := .real 0.0

namespace Screen

/-- The least time between two rings, in seconds. -/
def bellInterval : Number := .real 0.1

/-- Receives a frame. -/
def draw (s : Screen) (d : Display) : Screen :=
  { s with frame := d, frameCount := s.frameCount + 1 }

/-- Receives a beep at a time. It is counted also where the time since the last
ring cannot be computed. -/
def beep (s : Screen) (now : Number) : Screen × Except ArithmeticFault Unit :=
  let s := { s with beepCount := s.beepCount + 1 }
  if s.bell then
    match now.difference s.lastBell with
    | .error f => (s, .error f)
    | .ok elapsed =>
        if bellInterval ≤ elapsed then
          ({ s with rings := s.rings + 1, lastBell := now }, .ok ())
        else (s, .ok ())
  else (s, .ok ())

/-- The lines inside the panel. -/
def content (s : Screen) : List String :=
  let picture := (HalfBlock.lines Display.width Display.height s.frame.snapshot).toOption
  picture.getD [] ++ (s.status.map (·.splitOn "\n")).getD []

/-- The screen as it is shown on a console of a width. -/
def text (s : Screen) (console : Nat) : Except Markup.Fault String :=
  Panel.text console s.title s.content

end Screen

end ChipEight
