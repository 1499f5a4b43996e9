import ChipEight.Fault
import ChipEight.Word

/-!
# The call stack

A fixed number of slots and a depth. A push fills the slot at the depth, a pop
only lowers the depth, so a slot above it keeps what was there before. Nothing
ever looks at those: the frames are the slots below the depth.

Both ends are guarded. A push on a full stack and a pop on an empty one are
faults that leave the stack alone.
-/

namespace ChipEight

/-- Slots for call sites, of which the first `depth` are in use. -/
structure CallStack where
  slots : Array UInt16
  depth : Nat
  depth_le : depth ≤ slots.size := by omega
  deriving DecidableEq

namespace CallStack

/-- An empty stack; a negative number of slots is none. -/
def new (slots : Int) : CallStack where
  slots := Array.replicate slots.toNat 0
  depth := 0
  depth_le := Nat.zero_le _

/-- How many calls fit. -/
def capacity (s : CallStack) : Nat := s.slots.size

/-- The call sites in use, oldest first. -/
def frames (s : CallStack) : List UInt16 := s.slots.toList.take s.depth

/-- There is room for the frame that a call adds. -/
theorem succ_depth_le (s : CallStack) (site : Int) (h : s.depth < s.slots.size) :
    s.depth + 1 ≤ (s.slots.set s.depth (lowWord site) h).size := by
  simp
  omega

/-- Enters a call: the low sixteen bits of its site become the newest frame. -/
def push (s : CallStack) (site : Int) : Except Fault CallStack :=
  if h : s.depth < s.slots.size then
    .ok {
      slots := s.slots.set s.depth (lowWord site) h
      depth := s.depth + 1
      depth_le := succ_depth_le s site h }
  else .error (.callStackOverflow s.capacity site)

/-- Leaves a call: the newest frame and the stack without it. -/
def pop (s : CallStack) : Except Fault (UInt16 × CallStack) :=
  match s.depth, s.depth_le with
  | 0, _ => .error .callStackUnderflow
  | d + 1, h =>
      .ok (s.slots.getD d 0, {
        slots := s.slots
        depth := d
        depth_le := by omega })

end CallStack

end ChipEight
