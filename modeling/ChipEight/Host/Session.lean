import ChipEight.Host.Basic
import ChipEight.Json.Reader
import ChipEight.Json.Writer
import ChipEight.Markup.Basic
import ChipEight.Options.Grammar
import ChipEight.Options.Setting
import ChipEight.Report.Statistics

/-!
# Sessions

A session is a program that talks to its host and may end early: because it
leaves with an exit code, or because something came up that it does not deal
with. What was written until then stays written.
-/

namespace ChipEight

/-- What a setting without a value was needed for. -/
inductive Hollow where
  /-- To be compared with the least rate. -/
  | rate
  /-- To be compared with the number of instructions. -/
  | limit
  /-- To seed a random source. -/
  | seed
  deriving DecidableEq, Repr

/-- The one sentence that says what cannot be done with an empty list. -/
def Hollow.message : Hollow → String
  | rate => "'<' not supported between instances of 'list' and 'int'"
  | limit => "'>=' not supported between instances of 'int' and 'list'"
  | seed => "unhashable type: 'list'"

/-- What a session may fail for. -/
inductive Cause where
  /-- No file can have the name. -/
  | unusableName
  /-- There is no image to run. -/
  | image (r : Image.Refusal)
  /-- The machine stopped by itself. -/
  | machine (f : Fault)
  /-- The machine cannot keep its rate. -/
  | pacing (f : PacingFault)
  /-- A setting has no value. -/
  | hollow (h : Hollow)
  /-- A configuration is nested too deeply to be read. -/
  | tooDeep (c : Json.Container)
  /-- A configuration holds an integer that is too long to be written. -/
  | tooLong
  /-- The title of a panel is no markup. -/
  | markup (f : Markup.Fault)
  /-- A calculation has no result. -/
  | arithmetic (f : ArithmeticFault)
  /-- There is no report. -/
  | statistics (f : Report.StatisticsFault)
  deriving DecidableEq, Repr

/-- The one sentence that says what happened. -/
def Cause.message : Cause → String
  | unusableName => FileFault.text .invalidName
  | image r => r.message
  | machine f => f.message
  | pacing f => f.message
  | hollow h => h.message
  | tooDeep c => c.tooDeep
  | tooLong => Json.tooLong
  | markup f => f.message
  | arithmetic f => f.message
  | statistics f => f.message

/-- What a machine that was not loaded is to a session. -/
def Cause.ofLoadFault : Machine.LoadFault → Cause
  | .image r => .image r
  | .memory f => .machine f

/-- How a session ends. -/
inductive Ending where
  | exit (code : Nat)
  | failure (cause : Cause)
  deriving DecidableEq, Repr

/-- A program on a host. -/
abbrev Session (m : Type → Type) := ExceptT Ending m

namespace Session

variable {m : Type → Type} [Monad m] [Host m]

/-- Writes to a stream. -/
def emit (s : Stream) (text : String) : Session m Unit := ExceptT.lift (Host.emit s text)

/-- Writes lines to a stream. -/
def emitLines (s : Stream) (lines : List String) : Session m Unit :=
  emit s (String.join (lines.map (· ++ "\n")))

/-- Ends the session. -/
def leave {α : Type} (e : Exit) : Session m α := do
  emit .out e.out
  emit .err e.err
  throw (.exit e.code)

/-- Goes on with a result, or ends the session. -/
def orLeave {α : Type} : Except Exit α → Session m α
  | .ok a => return a
  | .error e => leave e

/-- Goes on with a result, or fails. -/
def orFail {α ε : Type} (cause : ε → Cause) : Except ε α → Session m α
  | .ok a => return a
  | .error f => throw (.failure (cause f))

/-- Ends the session with a message. -/
def refuse {α : Type} (message : String) : Session m α :=
  leave { code := 1, err := "Error: " ++ message ++ "\n" }

/-- The image in a file. -/
def readImage (name : String) : Session m (List UInt8) := do
  match ← ExceptT.lift (Host.read (m := m) name) with
  | .ok bytes => orFail .image (Image.ofContents bytes)
  | .error .invalidName => throw (.failure .unusableName)
  | .error f => throw (.failure (.image (.unreadable name (f.message name))))

/-- Runs a machine for so many instructions, or without an end. What it leaves
behind is answered also where it failed. A limit without a value is noticed before
the first step, but after the rate. -/
def drive (limit : Options.Setting Int) (c : Machine) :
    Session m (Machine × Option Cause) := do
  if limit.isHollow then
    return (c, some <|
      match Machine.period? c.rate with
      | .error f => .arithmetic f
      | .ok _ => .hollow .limit)
  let o ← ExceptT.lift (Host.drive (m := m) { cycles := limit.value? } c)
  return (o.machine,
    match o.ending with
    | .failed f => some (.machine f)
    | .unpaced f => some (.pacing f)
    | .noPeriod f => some (.arithmetic f)
    | .returned | .unfinished => none)

/-- The ending of a whole session, which is well where nothing ended it. -/
def ending (s : Session m Unit) : m Ending := do
  match ← s.run with
  | .ok () => return .exit 0
  | .error e => return e

end Session

end ChipEight
