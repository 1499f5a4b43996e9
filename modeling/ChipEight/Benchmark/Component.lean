import ChipEight.Benchmark.Report
import ChipEight.Benchmark.Workload
import ChipEight.Host.Session

/-!
# Components

The operations a machine spends its time on, each by itself. Exercising one
repeats it on fixed arguments and adds up something of every result, so that
nothing of it may be left out.
-/

namespace ChipEight.Benchmark

/-- An operation that can be timed by itself. -/
inductive Component where
  | fetch
  | decode
  | draw
  | step
  deriving DecidableEq, Repr

/-- An idle machine without a rate, whose random bytes are always the same. -/
def idleMachine (image : List UInt8) : Except Machine.LoadFault Machine :=
  Machine.new image (.ofKeypad {}) (.seeded 0) .discarding (.whole 0)

namespace Component

/-- All components. -/
def all : List Component := [fetch, decode, draw, step]

/-- The title of a component in a list of all. -/
def title : Component → String
  | fetch => "ram.read16"
  | decode => "decode"
  | draw => "draw_sprite (15 rows)"
  | step => "cpu.step (tight loop)"

/-- How often an operation is repeated unless asked otherwise. -/
def repetitions : Component → Nat
  | fetch => 500000
  | decode => 500000
  | draw => 100000
  | step => 200000

/-- The words that are decoded in turn. -/
def words : List Nat := [0x6A2B, 0x8124, 0xD125, 0xF033, 0x1200]

/-- The sprite that is drawn. -/
def sprite : List UInt8 := (List.replicate 7 [0xA5, 0x5A]).flatten ++ [0xFF]

/-- The machine after so many steps, as far as it gets. -/
def stepped : Nat → Machine → Machine
  | 0, m => m
  | n + 1, m =>
      match Machine.step m with
      | .ok _ m => stepped n m
      | .error _ m => m

/-- Repeats an operation so many times. -/
def exercise (n : Nat) : Component → Nat
  | fetch =>
      let memory := (Memory.blank Image.memorySize).setAll 0x200 [0x00, 0xE0]
      n.fold (fun _ _ sum => sum + (memory.read16 0x200).toOption.getD 0) 0
  | decode =>
      n.fold (fun i _ sum =>
        sum + ((Instruction.decode (words.getD (i % 5) 0) none).toOption.map
          fun d => d.op.toNat).getD 0) 0
  | draw =>
      (n.fold (fun i _ (d : Display) =>
        (d.drawSprite (i % 64 : Nat) (i % 32 : Nat) sprite).1) .blank).litCount
  | step =>
      match idleMachine (imageOf [0x7001, 0x1200]) with
      | .ok m => (stepped n m).cycles
      | .error _ => 0

variable {m : Type → Type} [Monad m] [Host m]

/-- Times so many repetitions of an operation. -/
def sample (c : Component) (n : Int) : Session m Sample := do
  let start ← ExceptT.lift Host.now
  ExceptT.lift (Host.labour fun _ => c.exercise n.toNat)
  let stop ← ExceptT.lift Host.now
  Session.orFail .arithmetic (Sample.ofLabour start stop n)

end Component

end ChipEight.Benchmark
