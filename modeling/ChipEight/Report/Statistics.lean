import ChipEight.Json.Writer
import ChipEight.Tally
import ChipEight.Text.Align

/-!
# The statistics report

The most frequent instructions with their shares, the others as one entry, and
the totals of the categories that instructions fall into. Entries stand in three
columns, each filled from top to bottom before the next is begun.

How many instructions are shown by themselves is any integer: a negative one
leaves out so many from the end.

Counts are integers of any size, but like all integers they can only be written up
to a number of digits. A report in which one would be longer is not made.
-/

namespace ChipEight.Report

open Numeral (decimal grouped fixed)

/-- The kinds of instructions the report tells apart. -/
inductive Category where
  | flow
  | arithmetic
  | memory
  | display
  | device
  | other
  deriving DecidableEq, Repr

namespace Category

/-- The categories in the order they are reported. -/
def all : List Category := [flow, arithmetic, memory, display, device, other]

/-- The word for a category. -/
def label : Category → String
  | flow => "Flow"
  | arithmetic => "ALU"
  | memory => "Memory"
  | display => "Display"
  | device => "I/O"
  | other => "Other"

/-- The names that belong to a category. -/
def names : Category → List String
  | flow => ["JP", "JP V0", "CALL", "RET", "SE", "SNE"]
  | arithmetic => ["LD", "ADD", "OR", "AND", "XOR", "SUB", "SUBN", "SHR", "SHL"]
  | memory => ["LD I", "ADD I,Vx", "LD F,Vx", "LD B,Vx", "LD [I],Vx", "LD Vx,[I]"]
  | display => ["CLS", "DRW"]
  | device => ["SKP", "SKNP", "LD Vx,K", "LD Vx,DT", "LD DT,Vx", "LD ST,Vx", "RND"]
  | other => []

/-- The category of a name. -/
def of (name : String) : Category :=
  (all.find? fun c => c.names.contains name).getD other

end Category

/-- The causes for which there is no report. -/
inductive StatisticsFault where
  /-- Nothing is left to be shown by itself. -/
  | nothingShown
  /-- A share cannot be computed. -/
  | arithmetic (f : ArithmeticFault)
  /-- A count has too many digits to be written. -/
  | tooLong
  deriving DecidableEq, Repr

/-- The one sentence that says what happened. -/
def StatisticsFault.message : StatisticsFault → String
  | nothingShown => "max() arg is an empty sequence"
  | arithmetic f => f.message
  | tooLong => Json.tooLong

/-- Counts in descending order; equal counts keep their order. -/
def ranked (t : Tally) : Tally := t.mergeSort fun a b => b.2 ≤ a.2

/-- Where a list of some length is split for `top` of its items. -/
def splitPoint (length : Nat) (top : Int) : Nat :=
  if 0 ≤ top then min top.toNat length else (length + top).toNat

/-- A name, its count and the share of the total. -/
structure Entry where
  name : String
  count : Int
  share : Float

/-- An entry with its share computed. -/
def Entry.make (total : Int) (name : String) (count : Int) : Except StatisticsFault Entry :=
  match Number.percentage count total with
  | .ok share => if Json.isTooLong count then .error .tooLong else .ok ⟨name, count, share⟩
  | .error f => .error (.arithmetic f)

/-- The name under which the instructions left out are counted. -/
def othersName : String := "... others"

/-- The entries: the shown ones, then the others if there are more than `top`. -/
def entries (top : Int) (t : Tally) : Except StatisticsFault (List Entry) := do
  let sorted := ranked t
  let k := splitPoint sorted.length top
  let total := t.total
  let shown ← (sorted.take k).mapM fun (name, count) => Entry.make total name count
  if top < sorted.length then
    let others ← Entry.make total othersName (Tally.total (sorted.drop k))
    return shown ++ [others]
  else return shown

/-- The text of an entry, its name and its count in columns. -/
def Entry.text (nameWidth countWidth : Nat) (e : Entry) : String :=
  Text.padRight nameWidth e.name ++ " " ++ Text.padLeft countWidth (decimal e.count)
    ++ " (" ++ Text.padLeft 5 (fixed 1 e.share) ++ "%)"

/-- How many columns the entries stand in. -/
def columns : Nat := 3

/-- How many rows the columns take. -/
def rowCount (n : Nat) : Nat := (n + columns - 1) / columns

/-- The entries of one row: the columns are filled from top to bottom. -/
def gridRow {α : Type} (cells : List α) (row : Nat) : List α :=
  (List.range columns).filterMap fun column => cells[column * rowCount cells.length + row]?

/-- The rows of the columns. -/
def grid {α : Type} (cells : List α) : List (List α) :=
  (List.range (rowCount cells.length)).map (gridRow cells)

/-- A text without the blanks at its end. -/
def trimEnd (s : String) : String :=
  String.ofList (s.toList.reverse.dropWhile (· == ' ')).reverse

/-- One row as a line. -/
def gridLine (width : Nat) (cells : List String) : String :=
  "  " ++ trimEnd (String.join (cells.map (Text.padRight width)))

/-- The greatest length among some texts. -/
def greatestLength (texts : List String) : Nat :=
  texts.foldl (fun w s => max w s.length) 0

/-- The totals of the categories that occur, each under its word. -/
def categoryTotals (t : Tally) : Tally :=
  t.foldl (fun totals (name, count) => totals.add (Category.of name).label count) []

/-- The text of a category's total. -/
def categoryText (total : Int) (c : Category) (count : Int) :
    Except StatisticsFault String :=
  if Json.isTooLong count then .error .tooLong
  else
    match Number.percentage count total with
    | .ok share =>
        .ok (c.label ++ ": " ++ grouped count ++ " (" ++ fixed 0 share ++ "%)")
    | .error f => .error (.arithmetic f)

/-- The totals of all categories that occur. -/
def categoryTexts (t : Tally) : Except StatisticsFault (List String) :=
  let totals := categoryTotals t
  (Category.all.filterMap fun c => (totals.lookup c.label).map fun n => (c, n)).mapM
    fun (c, n) => categoryText t.total c n

/-- How many instructions are shown by themselves unless asked otherwise. -/
def defaultTop : Int := 12

/-- The report on some counts. -/
def statistics (t : Tally) (top : Int := defaultTop) : Except StatisticsFault String :=
  if t.isEmpty then .ok "No instructions executed."
  else do
    let k := splitPoint t.length top
    if k = 0 then throw .nothingShown
    let shown := (ranked t).take k
    if (t.total :: shown.map Prod.snd).any Json.isTooLong then throw .tooLong
    let es ← entries top t
    let nameWidth := greatestLength (shown.map Prod.fst)
    let countWidth := greatestLength (shown.map fun e => decimal e.2)
    let texts := es.map (Entry.text nameWidth countWidth)
    let width := greatestLength texts + 2
    let categories ← categoryTexts t
    return String.intercalate "\n"
      (("Top " ++ decimal k ++ " instructions (total: " ++ grouped t.total ++ ")") :: ""
        :: (grid texts).map (gridLine width)
        ++ ["", "  " ++ String.intercalate "  |  " categories])

end ChipEight.Report
