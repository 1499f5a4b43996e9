import ChipEight.Display

/-!
# The output device

A device receives every frame and every beep. It may answer a call by asking
the run to stop, either directly or through the event that the owner of the run
watches. What it asks for is known by the number of the call, counted from zero
separately for frames and for beeps.
-/

namespace ChipEight

/-- The two calls an output device receives. -/
inductive Signal where
  | frame
  | beep
  deriving DecidableEq, Repr

/-- What a device asks for during a call. -/
structure StopRequest where
  /-- The run itself is asked to stop. -/
  run : Bool := false
  /-- The event outside the machine is set. -/
  event : Bool := false
  deriving DecidableEq, Repr

/-- Both requests together. -/
def StopRequest.or (a b : StopRequest) : StopRequest :=
  ⟨a.run || b.run, a.event || b.event⟩

/-- An output device with what it has received so far. -/
structure Output where
  keepsFrames : Bool
  frames : Array Display := #[]
  frameCount : Nat := 0
  beepCount : Nat := 0
  request : Signal → Nat → StopRequest := fun _ _ => {}

namespace Output

/-- A device that throws everything away. -/
def discarding : Output := { keepsFrames := false }

/-- A device that keeps every frame. -/
def recording : Output := { keepsFrames := true }

/-- Delivers a frame. -/
def deliver (o : Output) (d : Display) : StopRequest × Output :=
  (o.request .frame o.frameCount,
    { o with
      frames := if o.keepsFrames then o.frames.push d else o.frames
      frameCount := o.frameCount + 1 })

/-- Sounds one beep. -/
def beep (o : Output) : StopRequest × Output :=
  (o.request .beep o.beepCount, { o with beepCount := o.beepCount + 1 })

/-- How many calls of a kind were received. -/
def count (o : Output) : Signal → Nat
  | .frame => o.frameCount
  | .beep => o.beepCount

/-- The device that in addition asks for something during its `ahead`-th call of
a kind from now on, the next being the first. -/
def requesting (o : Output) (s : Signal) (ahead : Int) (r : StopRequest) : Output :=
  { o with
    request := fun signal n =>
      if signal = s ∧ (n : Int) + 1 = o.count s + ahead then (o.request signal n).or r
      else o.request signal n }

end Output

end ChipEight
