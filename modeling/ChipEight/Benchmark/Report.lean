import ChipEight.Report.Statistics

/-!
# The lines of a benchmark

How long something took, how much of it a second held, and for a program which
instructions it was made of. Rates are counted in thousands and millions where
they are great enough, with one and two decimals.
-/

namespace ChipEight.Benchmark

open Numeral (decimal fixed grouped)

/-- A rate, in millions, thousands or ones. -/
def rateText (rate : Number) : Except ArithmeticFault String := do
  if Number.whole 1000000 ≤ rate then
    return fixed 2 (← rate.ratio (.whole 1000000)) ++ "M"
  else if Number.whole 1000 ≤ rate then
    return fixed 1 (← rate.ratio (.whole 1000)) ++ "K"
  else return fixed 0 (← rate.toReal)

/-- The beginning of a line: a name, a time in seconds and a rate. -/
def speedText (nameWidth : Nat) (name : String) (elapsed rate : Number) :
    Except ArithmeticFault String := do
  let seconds := fixed 3 (← elapsed.toReal)
  let rate ← rateText rate
  return "  " ++ Text.padRight nameWidth name ++ " " ++ Text.padLeft 7 seconds ++ "s  "
    ++ Text.padLeft 8 rate ++ "/s  "

/-- What came of running a program. -/
structure Timing where
  cycles : Int
  elapsed : Number
  rate : Number
  statistics : Tally

namespace Timing

/-- The timing of a run between two readings of the clock. A clock that did not
move makes a rate of zero. -/
def ofRun (start stop : Number) (cycles : Int) (statistics : Tally) :
    Except ArithmeticFault Timing := do
  let elapsed ← stop.difference start
  let rate ←
    if elapsed.isPositive then Number.real <$> Number.ratio (.whole cycles) elapsed
    else pure (Number.whole 0)
  return { cycles, elapsed, rate, statistics }

/-- The line with time and rate. -/
def speedLine (name : String) (t : Timing) : Except ArithmeticFault String := do
  return (← speedText 14 name t.elapsed t.rate) ++ Text.padLeft 10 (grouped t.cycles)
    ++ " cycles"

/-- The line with the five most frequent instructions, if there were any. -/
def mixLine? (t : Timing) : Except ArithmeticFault (Option String) := do
  let total := t.statistics.total
  if total = 0 then return none
  let parts ← ((Report.ranked t.statistics).take 5).mapM fun (name, count) => do
    return name ++ " " ++ fixed 0 (← Number.percentage count total) ++ "%"
  return some (Text.padRight 17 "" ++ "mix: " ++ String.intercalate ", " parts)

end Timing

/-- What came of repeating an operation. -/
structure Sample where
  operations : Int
  elapsed : Number
  rate : Number

namespace Sample

/-- The sample of some operations between two readings of the clock, which must
have moved. -/
def ofLabour (start stop : Number) (operations : Int) : Except ArithmeticFault Sample := do
  let elapsed ← stop.difference start
  let rate ← Number.ratio (.whole operations) elapsed
  return { operations, elapsed, rate := .real rate }

/-- The line of a sample. -/
def line (name : String) (s : Sample) : Except ArithmeticFault String := do
  return (← speedText 20 name s.elapsed s.rate) ++ "(" ++ grouped s.operations ++ " ops)"

end Sample

end ChipEight.Benchmark
