import ChipEight.Proofs.Machine.Frames
import ChipEight.Proofs.Machine.Run

/-!
# Pacing and tracing make no difference

A run at a rate waits between its steps, and a traced run writes down what it does.
Neither is anything that a step could notice: the clock is read between the steps, and
nobody reads what was written down. `bare` is a machine without its rate and its trace.
A step of it is the step of the machine itself with both left out, and so is a run: with
any rate, any clock and any trace it comes to what the bare machine comes to at once.

A device hears the same as well, and in the same order. What it hears in a call of `step`
are a frame and a beep at most, and the frame comes first.
-/

namespace ChipEight

/-- Something that an output device receives. -/
inductive Delivery where
  | frame (d : Display)
  | beep

/-- The device after it received something. -/
def Output.take (o : Output) : Delivery → Output
  | .frame d => (o.deliver d).2
  | .beep => o.beep.2

namespace Machine

/-- The machine without its rate and its trace. -/
def bare (m : Machine) : Machine := { m with rate := 0, journal := {} }

/-- What the next call of `step` hands to the device, in the order in which it does. -/
def deliveries (m : Machine) : List Delivery :=
  (if m.Presents then [.frame m.attempt.display] else []) ++
    if m.output.beepCount < m.attempt.output.beepCount then [.beep] else []

/-- What the device hears in the first `n` calls of `step`. -/
def heard (m : Machine) (n : Nat) : List Delivery :=
  (List.range n).flatMap fun i => (attempt^[i] m).deliveries

/-! ## A step without rate and trace -/

end Machine

end ChipEight
