import ChipEight.CallStack
import ChipEight.Display
import ChipEight.Font
import ChipEight.Image
import ChipEight.KeyInput
import ChipEight.Memory
import ChipEight.Numeral.Number
import ChipEight.Output
import ChipEight.Random.Source
import ChipEight.Registers
import ChipEight.Tally

/-!
# The machine

Everything a step can read or change, the devices included. The program
counter, the index register and the timers are plain integers: each instruction
cuts what it writes to them to the width that it promises, and a machine may be
put into any state by hand.

A machine under construction loads the glyph table and the program image; from
then on it changes only by steps and by what its owner does to it.
-/

namespace ChipEight

/-- Lines of a trace, collected while tracing is on. -/
structure Journal where
  tracing : Bool := false
  lines : Array String := #[]
  deriving DecidableEq, Repr

/-- A line is kept only while tracing is on. -/
def Journal.note (j : Journal) (line : String) : Journal :=
  if j.tracing then { j with lines := j.lines.push line } else j

/-- A machine with its devices. `stopRequested` is the machine's own stop flag
and `eventSet` the event that the owner of a run may watch. -/
structure Machine where
  memory : Memory Image.memorySize
  registers : Registers := .zero
  calls : CallStack := .new 16
  display : Display := .blank
  pc : Int := Image.offset
  index : Int := 0
  delay : Int := 0
  sound : Int := 0
  cycles : Nat := 0
  waitingForKey : Bool := false
  statistics : Tally := []
  stopRequested : Bool := false
  eventSet : Bool := false
  keys : KeyInput
  random : Random.Source
  output : Output
  rate : Number
  journal : Journal := {}

namespace Machine

/-- Why a memory is not loaded. -/
inductive LoadFault where
  | image (r : Image.Refusal)
  | memory (f : Fault)
  deriving DecidableEq, Repr

/-- A memory with an image behind the part that belongs to the interpreter. The size is
checked before the memory is asked, which has a check of its own. -/
def loadImage {size : Nat} (memory : Memory size) (image : List UInt8) :
    Except LoadFault (Memory size) := do
  (Image.check image).mapError .image
  (memory.loadSegment Image.offset image).mapError .memory

/-- A machine ready to fetch the first instruction of an image. -/
def new (image : List UInt8) (keys : KeyInput) (random : Random.Source) (output : Output)
    (rate : Number) : Except LoadFault Machine := do
  let bare := Memory.blank Image.memorySize
  let bare ← (bare.loadSegment Font.offset Font.table).mapError .memory
  let memory ← loadImage bare image
  return { memory, keys, random, output, rate }

/-- The machine after a device asked for something. -/
def heed (m : Machine) (r : StopRequest) : Machine :=
  { m with
    stopRequested := m.stopRequested || r.run
    eventSet := m.eventSet || r.event }

/-- Hands the display to the output device. -/
def present (m : Machine) : Machine :=
  let (r, output) := m.output.deliver m.display
  { m with output := output }.heed r

/-- Counts both timers down by one, with a beep while the sound timer runs. -/
def tick (m : Machine) : Machine :=
  let m :=
    if 0 < m.sound then
      let (r, output) := m.output.beep
      { m with output := output, sound := m.sound - 1 }.heed r
    else m
  if 0 < m.delay then { m with delay := m.delay - 1 } else m

/-- Asks a run to return after the current instruction. -/
def stop (m : Machine) : Machine := { m with stopRequested := true }

/-- Lets the keypad, where the machine has one, answer a call. -/
def onKeypad (m : Machine) (call : Keypad.Call) : Machine × Keypad.Answer :=
  match m.keys.keypad? with
  | none => (m, .ok none)
  | some pad =>
      let (pad, answer) := pad.perform call
      ({ m with keys := { m.keys with source := .keypad pad } }, answer)

end Machine

end ChipEight
