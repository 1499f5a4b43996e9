import ChipEight.Benchmark.Component
import ChipEight.Numeral.Reading
import ChipEight.Options.Parse
import ChipEight.Options.Setting

/-!
# The benchmark command

First the components, then the workloads that were asked for: all of them, those
whose names hold a text, or one image from a file. Nothing is caught here; an
image that is refused and a machine that fails end the command.
-/

namespace ChipEight.Benchmark

open Options (Flag Grammar)

/-- The command's options. -/
def grammar : Grammar where
  program := "bench.py"
  usage := "usage: bench.py [-h] [--rom ROM] [--cycles CYCLES] [--cprofile] [--micro-only]
                [--no-micro]
                [workload]
"
  details := "Profile the CHIP-8 emulator

positional arguments:
  workload         Run a specific workload (substring match)

options:
  -h, --help       show this help message and exit
  --rom ROM        Benchmark a program image instead
  --cycles CYCLES  Instruction limit for --rom (default 500000)
  --cprofile       Run under cProfile and print hot functions
  --micro-only     Only run micro-benchmarks
  --no-micro       Skip micro-benchmarks
"
  flags := [.help, ⟨["--rom"], true, false⟩, ⟨["--cycles"], true, false⟩,
    ⟨["--cprofile"], false, false⟩, ⟨["--micro-only"], false, false⟩,
    ⟨["--no-micro"], false, false⟩]
  operand := .optional
  operandName := "workload"

/-- What is asked for. -/
structure Request where
  workload : String := ""
  rom : Option String := none
  cycles : Options.Setting Int := .given 500000
  profiled : Bool := false
  componentsOnly : Bool := false
  workloadsOnly : Bool := false

/-- A decimal integer. -/
def integer (text : String) : Except String Int :=
  match Numeral.Reading.integer? text with
  | none => .error ("invalid int value: " ++ Text.quoted text)
  | some n => .ok n

/-- A request with one more option in it. -/
def Request.withFlag (r : Request) (f : Flag) (given : List String) :
    Except String Request :=
  match f.label with
  | "--rom" => return { r with rom := Options.nonempty? given }
  | "--cycles" => return { r with cycles := ← Options.Setting.read integer given }
  | "--cprofile" => return { r with profiled := true }
  | "--micro-only" => return { r with componentsOnly := true }
  | "--no-micro" => return { r with workloadsOnly := true }
  | _ => return r

/-- Takes in the options and the workload. -/
def handler : Options.Handler Request where
  onFlag := Request.withFlag
  onOperand r words := .ok { r with workload := words.headD "" }

/-- What a command line asks for. -/
def request (args : List String) : Except Exit Request := do
  let (r, extras) ← Options.parse grammar handler {} args
  Options.refuseExtras grammar extras
  return r

/-- The last component of a file's name. -/
def baseName (name : String) : String :=
  (((name.splitOn "/").filter fun c => c != "" && c != ".").getLast?).getD ""

/-- A rule below or between parts of the output. -/
def ruler (c : Char) : String := String.ofList (List.replicate 65 c)

variable {m : Type → Type} [Monad m] [Host m]

/-- The workloads that are asked for. -/
def selected (r : Request) : Session m (List Workload) := do
  match r.rom with
  | some rom =>
      let image ← Session.readImage rom
      return [⟨baseName rom, image, r.cycles, rom⟩]
  | none =>
      if r.workload.isEmpty then return Workload.all
      else
        match Workload.matching r.workload with
        | [] => Session.leave {
            code := 1
            out := "No workload matching '" ++ r.workload ++ "'\nAvailable: "
              ++ String.intercalate ", " (Workload.all.map (·.name)) ++ "\n" }
        | found => return found

/-- Times the components. -/
def runComponents : Session m Unit := do
  Session.emitLines .out ["Micro-benchmarks (isolated hot-path components)", ruler '-']
  for c in Component.all do
    let s ← c.sample (m := m) c.repetitions
    Session.emitLines .out [← Session.orFail .arithmetic (s.line c.title)]
  Session.emitLines .out [""]

/-- Prints a timing, line by line. -/
def announce (name : String) (t : Timing) : Session m Unit := do
  Session.emitLines .out [← Session.orFail .arithmetic (t.speedLine name)]
  Session.emitLines .out (← Session.orFail .arithmetic t.mixLine?).toList

/-- Times a workload. -/
def runWorkload (r : Request) (w : Workload) : Session m Unit := do
  let c ← Session.orFail .ofLoadFault (idleMachine w.image)
  if r.profiled then
    Session.emitLines .out
      ["", "cProfile: " ++ w.name ++ " (" ++ w.description ++ ")", ruler '=']
  let start ← ExceptT.lift Host.now
  let (c, failure) ← Session.drive w.limit c
  let stop ← ExceptT.lift Host.now
  match failure with
  | some cause => throw (.failure cause)
  | none =>
      announce w.name
        (← Session.orFail .arithmetic (Timing.ofRun start stop c.cycles c.statistics))

/-- The program, given its arguments. -/
def program (args : List String) : Session m Unit := do
  let r ← Session.orLeave (request args)
  let ws ← selected r
  if !r.workloadsOnly then runComponents
  if !r.componentsOnly then
    Session.emitLines .out ["Workloads", ruler '-']
    for w in ws do runWorkload r w
    Session.emitLines .out [""]

end ChipEight.Benchmark
