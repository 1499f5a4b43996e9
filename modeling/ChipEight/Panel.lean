import ChipEight.Markup.Basic
import ChipEight.Text.Wrap

/-!
# Panels

A panel is a box of lines with a title in its upper edge. It is as wide as its
widest line or its title with a blank on each side, whichever is wider, but no wider
than the console, and widths are counted in cells. Lines that are too long are
broken, a title that is too long is cut.

Controls that would move the cursor back or down are left out. A title is markup.
-/

namespace ChipEight.Panel

/-- Whether a control moves the cursor or rings: bell, backspace, vertical
tabulator, form feed, carriage return. -/
def isIntrusive (c : Char) : Bool := [7, 8, 11, 12, 13].contains c.toNat

/-- Text without intrusive controls. -/
def sober (cs : List Char) : List Char := cs.filter (!isIntrusive ·)

/-- The title as it is shown, with a blank on each side; none for an empty one. -/
def title? (title : String) : Except Markup.Fault (Option (List Char)) := do
  if title.isEmpty then return none
  let shown := sober (← Markup.plain title.toList)
  let line := shown.map fun c => if c = '\n' then ' ' else c
  return some (' ' :: Text.expandTabs 0 line ++ [' '])

/-- Whether a character separates lines where the width of a text is measured. -/
def separatesLines (c : Char) : Bool :=
  [0x1C, 0x1D, 0x1E, 0x85, 0x2028, 0x2029].contains c.toNat

/-- The greatest width among some lines. -/
def widest (lines : List (List Char)) : Nat :=
  ((lines.flatMap (·.splitOnP separatesLines)).map Text.cells).foldl max 0

/-- The width inside a panel on a console. -/
def innerWidth (console : Nat) (title : Option (List Char)) (lines : List (List Char)) : Nat :=
  min (max (widest lines) ((title.map Text.cells).getD 0)) (console - 4)

/-- So much of an edge. -/
def rule (n : Nat) : List Char := List.replicate n '─'

/-- The upper edge, with the title in the middle, the left side the shorter. -/
def top (width : Nat) : Option (List Char) → List Char
  | none => '╭' :: rule (width + 2) ++ ['╮']
  | some title =>
      let shown := Text.cutToCells width title
      let free := width - Text.cells shown
      let middle := rule (free / 2) ++ shown ++ rule (free - free / 2)
      ['╭', '─'] ++ Text.fit width middle ++ ['─', '╮']

/-- The lower edge. -/
def bottom (width : Nat) : List Char := '╰' :: rule (width + 2) ++ ['╯']

/-- A line between the sides. -/
def row (width : Nat) (cs : List Char) : List Char :=
  ['│', ' '] ++ cs ++ List.replicate (width - Text.cells cs) ' ' ++ [' ', '│']

/-- A panel around lines, without an end of line behind it. -/
def around (console : Nat) (title : Option (List Char)) (content : List String) : String :=
  let lines := content.map fun l => sober l.toList
  let width := innerWidth console title lines
  let rows := lines.flatMap fun l => Text.wrap width (Text.expandTabs 0 l)
  String.intercalate "\n"
    ((top width title :: rows.map (row width) ++ [bottom width]).map String.ofList)

/-- A panel with a title in markup. -/
def text (console : Nat) (title : String) (content : List String) :
    Except Markup.Fault String := do
  return around console (← title? title) content

end ChipEight.Panel
