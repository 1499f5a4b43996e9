import ChipEight.Host.Basic
import ChipEight.Numeral.Power

/-!
# The system as a host

Real files, a real clock and real time. This is the only module that touches the
world; what it does there is what `Host` says, and nothing is decided here.
-/

namespace ChipEight.System

/-- The number and the text of a failure of the system. -/
def codeAndText : IO.Error → Nat × String
  | .alreadyExists _ c t => (c.toNat, t)
  | .otherError c t => (c.toNat, t)
  | .resourceBusy c t => (c.toNat, t)
  | .resourceVanished c t => (c.toNat, t)
  | .unsupportedOperation c t => (c.toNat, t)
  | .hardwareFault c t => (c.toNat, t)
  | .unsatisfiedConstraints c t => (c.toNat, t)
  | .illegalOperation c t => (c.toNat, t)
  | .protocolError c t => (c.toNat, t)
  | .timeExpired c t => (c.toNat, t)
  | .interrupted _ c t => (c.toNat, t)
  | .noFileOrDirectory _ c t => (c.toNat, t)
  | .invalidArgument _ c t => (c.toNat, t)
  | .permissionDenied _ c t => (c.toNat, t)
  | .resourceExhausted _ c t => (c.toNat, t)
  | .inappropriateType _ c t => (c.toNat, t)
  | .noSuchThing _ c t => (c.toNat, t)
  | .unexpectedEof => (0, "end of file")
  | .userError t => (0, t)

/-- A number in which failures may be written as negative in 32 bits. -/
def magnitude (code : Nat) : Nat :=
  if code < Numeral.twoPow 31 then code else Numeral.twoPow 32 - code

/-- Why a file could not be opened. -/
def fault (e : IO.Error) : FileFault :=
  let (code, text) := codeAndText e
  let code := magnitude code
  let known : List FileFault :=
    [.notFound, .permissionDenied, .notDirectory, .isDirectory, .nameTooLong]
  (known.find? fun f => f.code = code).getD (.other code text)

/-- Opens a file, unless no file can have the name. -/
def guarded {α : Type} (name : String) (act : IO α) : IO (Except FileFault α) := do
  if name.contains '\x00' then return .error .invalidName
  try return .ok (← act)
  catch e => return .error (fault e)

/-- The time in seconds. -/
def seconds : IO Number := do
  return .real ((← IO.monoNanosNow).toFloat / 1e9)

/-- The milliseconds of a wait. -/
def milliseconds (wait : Number) : UInt32 :=
  ((wait.toReal.toOption.getD 0.0) * 1000.0).toUInt32

/-- A clock that shows one time, and can wait as any clock can. -/
def clockAt (now : Number) : Clock Number :=
  { reading := fun _ => now, canWait := Machine.canWait }

/-- Keeps a pace in real time. What is slept through is not remembered. -/
def pace (period : Number) (p : Pacer Number) : IO (Except PacingFault (Pacer Number)) := do
  match p.next period Machine.maxLag (clockAt (← seconds)) with
  | .error f => return .error f
  | .ok move =>
      if let some wait := move.sleep then IO.sleep (milliseconds wait)
      return .ok (p.follow { move with sleep := none })

/-- Runs a machine in real time, or at once where it has no rate. -/
def drive (limits : Machine.Limits) (m : Machine) : IO (Machine.Outcome Number) := do
  match Machine.period? m.rate with
  | .ok (some period) =>
      Machine.runIn (.start (clockAt (← seconds))) (pace period) limits Machine.ample m
  | _ => return m.run Machine.standingClock limits Machine.ample

/-- A number from random bytes. -/
def entropy : IO Int := do
  return (← IO.getRandomBytes 8).toList.foldl (fun n b => n * 256 + (b.toNat : Int)) 0

/-- Carries out work, and keeps its result for as long as it takes. -/
def labour (work : Unit → Nat) : IO Unit := discard (IO.mkRef (work ()))

end ChipEight.System

namespace ChipEight

instance : Host IO where
  emit
    | .out, text => IO.print text
    | .err, text => IO.eprint text
  read name := System.guarded name do return (← IO.FS.readBinFile name).toList
  write name bytes := System.guarded name (IO.FS.writeBinFile name ⟨bytes.toArray⟩)
  room := return maxCalls - openCalls
  entropy := System.entropy
  now := System.seconds
  drive := System.drive
  labour := System.labour

end ChipEight
