import ChipEight.Timeline

/-!
# Keeping a rate

A run that is to take one period per instruction keeps a deadline, which moves
on by one period after every instruction. If the clock has not reached it, the
difference is slept through. If the clock is ahead of it by more than a fixed
lag, the lost time is given up and the deadline starts again from the clock;
a smaller lag is made good by the instructions that follow.

A clock may not be able to wait for as long as it is asked to, and its readings may
be too great to be moved on. Then there is no going on.

Nothing else here depends on what kind of numbers times are.
-/

namespace ChipEight

/-- A clock: its readings in order, and what it can wait for. -/
structure Clock (τ : Type) where
  reading : Nat → τ
  canWait : τ → Bool := fun _ => true

/-- Why a rate cannot be kept. -/
inductive PacingFault where
  /-- The clock cannot wait for as long as it is asked to. -/
  | waitTooLong
  /-- A time cannot be computed. -/
  | noTime (f : ArithmeticFault)
  deriving DecidableEq, Repr

/-- The one sentence that says what happened. -/
def PacingFault.message : PacingFault → String
  | waitTooLong => "timestamp too large to convert to C _PyTime_t"
  | noTime f => f.message

/-- The deadline, the number of clock readings taken, and the sleeps so far. -/
structure Pacer (τ : Type) where
  deadline : τ
  readings : Nat
  sleeps : Array τ

/-- What a pacer does for one instruction: where its deadline goes, how many readings it
has taken then, and how long it sleeps, if it does. -/
structure Move (τ : Type) where
  deadline : τ
  readings : Nat
  sleep : Option τ := none

namespace Pacer

variable {τ : Type} [Timeline τ] [Neg τ] [LT τ] [DecidableLT τ] [OfNat τ 0]

/-- A pacer whose deadline is the first reading of a clock. -/
def start (clock : Clock τ) : Pacer τ :=
  { deadline := clock.reading 0, readings := 1, sleeps := #[] }

/-- What a pacer does for the next instruction: it takes readings, moves its deadline and
may sleep. It does not look at what it did before. -/
def next (period maxLag : τ) (clock : Clock τ) (p : Pacer τ) :
    Except PacingFault (Move τ) := do
  let deadline ← (Timeline.later p.deadline period).mapError .noTime
  let wait ← (Timeline.since deadline (clock.reading p.readings)).mapError .noTime
  if 0 < wait then
    if !clock.canWait wait then throw .waitTooLong
    return { deadline := deadline, readings := p.readings + 1, sleep := some wait }
  else if wait < -maxLag then
    return { deadline := clock.reading (p.readings + 1), readings := p.readings + 2 }
  else
    return { deadline := deadline, readings := p.readings + 1 }

/-- The pacer after a move. -/
def follow (p : Pacer τ) (m : Move τ) : Pacer τ where
  deadline := m.deadline
  readings := m.readings
  sleeps :=
    match m.sleep with
    | some wait => p.sleeps.push wait
    | none => p.sleeps

end Pacer

end ChipEight
