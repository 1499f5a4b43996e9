import ChipEight.Text.Blank
import ChipEight.Text.CellWidth

/-!
# Breaking lines

A line that is too wide is broken between words, as late as possible. A word that
is too wide by itself begins a line of its own and is cut into pieces. A line never
begins with the blanks behind its last word on the line before; those stay there,
as far as there is room for them.
-/

namespace ChipEight.Text

/-- The distance between the stops of a tabulator, in cells. -/
def tabWidth : Nat := 8

/-- A line in which tabulators, from a column on, are blanks up to the next stop. -/
def expandTabs : Nat → List Char → List Char
  | _, [] => []
  | column, c :: rest =>
      if c = '\t' then
        let size := tabWidth - column % tabWidth
        List.replicate size ' ' ++ expandTabs (column + size) rest
      else c :: expandTabs (column + cellWidth c) rest

/-- The first word of a line with the blanks around it, and what follows. -/
def firstWord (cs : List Char) : List Char × List Char :=
  let rest := cs.dropWhile isSpace
  let tail := rest.dropWhile (!isSpace ·)
  (cs.takeWhile isSpace ++ rest.takeWhile (!isSpace ·) ++ tail.takeWhile isSpace,
    tail.dropWhile isSpace)

/-- The words of a line, each with the blanks behind it. Each round takes a word. -/
def wordsOf : Nat → List Char → List (List Char)
  | 0, _ => []
  | rounds + 1, cs =>
      if cs.isEmpty then []
      else
        let (w, rest) := firstWord cs
        w :: wordsOf rounds rest

/-- Cuts a word into pieces that fit a width, behind a piece that was begun and is
kept backwards. -/
def pieces (width : Nat) (begun : List Char) : List Char → List (List Char)
  | [] => [begun.reverse]
  | c :: rest =>
      if width < cells begun + cellWidth c then begun.reverse :: pieces width [c] rest
      else pieces width (c :: begun) rest

/-- Puts words into lines; `line` is the line being filled. -/
def fill (width : Nat) (line : List Char) : List (List Char) → List (List Char)
  | [] => [line]
  | w :: rest =>
      let size := cells (trimEnd w)
      if cells line + size ≤ width then fill width (line ++ w) rest
      else if width < size then
        let cut := pieces width [] w
        (if line.isEmpty then [] else [line]) ++ cut.dropLast
          ++ fill width (cut.getLastD []) rest
      else line :: fill width w rest

/-- A line with as many blanks less at its end as it has characters too many. -/
def cropEnd (width : Nat) (cs : List Char) : List Char :=
  let blanks := cs.length - (trimEnd cs).length
  cs.take (cs.length - min blanks (cs.length - width))

/-- A line made to fit a width, from which blanks at the end are taken first. -/
def fit (width : Nat) (cs : List Char) : List Char := cutToCells width (cropEnd width cs)

/-- A line broken to a width. -/
def wrap (width : Nat) (cs : List Char) : List (List Char) :=
  (fill width [] (wordsOf cs.length cs)).map (fit width)

end ChipEight.Text
