import ChipEight.Machine.Step
import ChipEight.Numeral.Power
import ChipEight.Pacing

/-!
# Running

A run takes steps until it is asked to stop, reaches its limit or fails. It is
asked to stop by the machine's own flag or, if it watches one, by an event. Both
are looked at before every step, and before the limit. However a run ends, the
machine's own flag is clear afterwards; the event stays as it is.

The period is computed from the rate before anything else. A whole number too
great for a double has no period, and then there is no run: the flag stays as it
was.

A run may go on for ever, so it is given a budget of steps; an ending of
`unfinished` says that the budget was used up.

Between two steps a run keeps its pace. It may do so by a clock whose readings are
known beforehand, or by one that goes on while it runs; the loop is the same.
-/

namespace ChipEight.Machine

/-- How a run ended. -/
inductive Ending where
  /-- It was asked to stop or reached its limit. -/
  | returned
  /-- A step failed. -/
  | failed (f : Fault)
  /-- The rate has no period. -/
  | noPeriod (f : ArithmeticFault)
  /-- The rate cannot be kept. -/
  | unpaced (f : PacingFault)
  /-- The budget was used up. -/
  | unfinished
  deriving DecidableEq, Repr

/-- What a run leaves behind. -/
structure Outcome (τ : Type) where
  machine : Machine
  executed : Nat
  pacer : Pacer τ
  ending : Ending

/-- What a run is told about when to stop. -/
structure Limits where
  cycles : Option Int := none
  watchesEvent : Bool := false

/-- Whether a run that executed so many instructions goes on. -/
def Limits.allows (l : Limits) (m : Machine) (executed : Nat) : Bool :=
  !m.stopRequested && !(l.watchesEvent && m.eventSet) &&
    match l.cycles with
    | none => true
    | some limit => (executed : Int) < limit

/-- Steps while the limits allow, and after each of them what it takes to keep a pace. How
the pace is kept is left to the monad: there a clock may be read and waited for. -/
@[specialize]
def driveIn {m : Type → Type} [Monad m] {τ : Type}
    (pace : Pacer τ → m (Except PacingFault (Pacer τ))) (limits : Limits) :
    Nat → Machine → Nat → Pacer τ → m (Outcome τ)
  | 0, c, executed, pacer => return ⟨c, executed, pacer, .unfinished⟩
  | budget + 1, c, executed, pacer =>
      if limits.allows c executed then
        match step c with
        | .error f c => return ⟨c, executed, pacer, .failed f⟩
        | .ok _ c => do
            match ← pace pacer with
            | .error f => return ⟨c, executed + 1, pacer, .unpaced f⟩
            | .ok pacer => driveIn pace limits budget c (executed + 1) pacer
      else return ⟨c, executed, pacer, .returned⟩

/-- Notes a line in the machine's journal. -/
def note (m : Machine) (line : String) : Machine :=
  { m with journal := m.journal.note line }

/-- The line that opens the trace of a run. -/
def openingLine (m : Machine) (limit : Option Int) : String :=
  "DEBUG run: rate=" ++ m.rate.text .plain ++ " Hz max_cycles="
    ++ (match limit with
      | none => "None"
      | some n => Numeral.decimal n)

/-- The line that closes the trace of a run. -/
def closingLine (executed : Nat) : String :=
  "DEBUG run: stopped after " ++ Numeral.decimal executed ++ " instructions"

/-- Ends a run: its own stop flag is used up. -/
def Outcome.close {τ : Type} (o : Outcome τ) : Outcome τ :=
  { o with
    machine := { o.machine with stopRequested := false }.note (closingLine o.executed) }

/-- A run whose pace is kept in a monad. -/
@[specialize]
def runIn {m : Type → Type} [Monad m] {τ : Type} (pacer : Pacer τ)
    (pace : Pacer τ → m (Except PacingFault (Pacer τ))) (limits : Limits) (budget : Nat)
    (c : Machine) : m (Outcome τ) := do
  let o ← driveIn pace limits budget (c.note (c.openingLine limits.cycles)) 0 pacer
  return o.close

section

variable {τ : Type} [Timeline τ] [Neg τ] [LT τ] [DecidableLT τ] [OfNat τ 0]

/-- Keeps a pace by a clock whose readings are known beforehand, if there is a period. -/
def pace (period : Option τ) (maxLag : τ) (clock : Clock τ) (p : Pacer τ) :
    Except PacingFault (Pacer τ) :=
  match period with
  | none => .ok p
  | some q => (p.next q maxLag clock).map p.follow

/-- A run with a given period. -/
def runPaced (period : Option τ) (maxLag : τ) (clock : Clock τ) (limits : Limits)
    (budget : Nat) (m : Machine) : Outcome τ :=
  Id.run (runIn (.start clock) (fun p => pure (pace period maxLag clock p)) limits budget m)

end

/-- The period of a rate: none where it is not positive or infinite. -/
def period? (rate : Number) : Except ArithmeticFault (Option Number) :=
  if rate.isPositive then do
    let p := 1.0 / (← rate.toReal)
    return if p == 0.0 then none else some (.real p)
  else return none

/-- The seconds a run may fall behind before it gives up catching up. -/
def maxLag : Number := .real 0.1

/-- The nanoseconds that a clock cannot wait any more. -/
def tooManyNanoseconds : Float := 9223372036854775808.0

/-- Whether a clock can wait for so many seconds. -/
def canWait (seconds : Number) : Bool :=
  match seconds.toReal with
  | .ok s => (s * 1e9).ceil < tooManyNanoseconds
  | .error _ => false

/-- A clock that stands still, and can wait as any clock can. -/
def standingClock : Clock Number := { reading := fun _ => .real 0.0, canWait }

/-- A run at the machine's rate. -/
def run (clock : Clock Number) (limits : Limits) (budget : Nat) (m : Machine) :
    Outcome Number :=
  match period? m.rate with
  | .error f => ⟨m, 0, .start clock, .noPeriod f⟩
  | .ok period => runPaced period maxLag clock limits budget m

/-- A budget that no run exhausts in practice. -/
def ample : Nat := Numeral.twoPow 62

end ChipEight.Machine
