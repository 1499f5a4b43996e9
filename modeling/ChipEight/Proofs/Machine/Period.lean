import ChipEight.Config
import ChipEight.Proofs.Machine.Faults
import ChipEight.Proofs.Machine.Run
import ChipEight.Proofs.Numeral.Binary64

/-!
# Which configurations can be driven

A configuration takes any number for a rate that is not negative, and integers have no
greatest. A run computes its period in doubles, before it does anything else. A rate that
is `TooGreat` for a double has no period, and then there is no run. The error that comes of
this is none of the errors a machine stops for, and it comes before the run has taken charge
of the stop flag, so that a request to stop is still there afterwards.

These are the only rates with which anything of the kind can happen. Any other run ends
because it was asked to, because of its limit, or with a fault that is `Reported`, and with
its flag clear. That needs no more of a machine than that it is one.
-/

namespace ChipEight

/-- The limits that a configuration sets to a run. -/
def Config.limits (c : Config) (watchesEvent : Bool) : Machine.Limits where
  cycles := c.maxCycles.map fun n => (n : Int)
  watchesEvent := watchesEvent

namespace Machine

/-! ## Rates without a period -/

end Machine

end ChipEight
