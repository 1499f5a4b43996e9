import ChipEight.Console.Request
import ChipEight.Host.Session
import ChipEight.Instruction.Disassembly
import ChipEight.Report.RegisterPanel
import ChipEight.Screen

/-!
# The commands

A run loads its configuration, puts the settings of the command line in their
place, saves what comes of it if it is asked to, and only then reads the image;
so a saved configuration may become the image that is run. Where the image is
refused or the machine fails, one line says so. The other ways to fail are left
to the caller.
-/

namespace ChipEight.Console

variable {m : Type → Type} [Monad m] [Host m]

/-- The width of the console. -/
def columns : Nat := 80

/-- The configuration in a file. -/
def loadConfig (name : String) : Session m Config := do
  let complain := fun text : String =>
    Session.refuse ("cannot load config '" ++ name ++ "': " ++ text)
  match ← ExceptT.lift (Host.read (m := m) name) with
  | .error f => complain (f.message name)
  | .ok bytes =>
      let room ← ExceptT.lift (Host.room (m := m))
      match Config.ofContents room name bytes with
      | .error (.malformed _ (.tooDeep c)) => throw (.failure (.tooDeep c))
      | .error f => complain (Text.escaped f.message)
      | .ok c => return c

/-- Saves a configuration. A file is left with what could be written. -/
def saveConfig (name : String) (c : Json) : Session m Unit := do
  let cut := c.textBeforeTooLong? Config.layout
  let text := cut.getD (c.render Config.layout)
  match ← ExceptT.lift (Host.write (m := m) name text.toUTF8.toList) with
  | .ok () => if cut.isSome then throw (.failure .tooLong)
  | .error .invalidName => throw (.failure .unusableName)
  | .error f =>
      Session.refuse ("cannot save config '" ++ name ++ "': " ++ f.message name)

/-- The configuration that a run is to use. -/
def configure (r : RunRequest) : Session m Config := do
  let base ←
    match r.config with
    | none => pure .standard
    | some name => loadConfig name
  match r.overrides.rate with
  | .hollow => throw (.failure (.hollow .rate))
  | .given hz => if hz.isNegative then Session.refuse "--rate must be >= 0"
  | .unset => pure ()
  let c := r.overrides.apply base
  match r.saveConfig with
  | none => pure ()
  | some name => saveConfig name (r.overrides.describe c)
  return c

/-- The random source of a run, which nobody can foresee where no seed is set. -/
def randomSource (r : RunRequest) (seed : Option Int) : Session m Random.Source := do
  if r.overrides.seed.isHollow then throw (.failure (.hollow .seed))
  match seed with
  | some n => return .seeded n
  | none => return .seeded (← ExceptT.lift Host.entropy)

/-- How many instructions a run is to take. -/
def limitOf (r : RunRequest) (c : Config) : Options.Setting Int :=
  if r.overrides.maxCycles.isHollow then .hollow
  else (c.maxCycles.map fun n => .given (n : Int)).getD .unset

/-- The line below the picture. -/
def statusLine (c : Machine) : String :=
  let key :=
    match c.keys.keypad?.bind Keypad.held with
    | none => "-"
    | some k => Numeral.hex 1 k
  "PC 0x" ++ Numeral.hex 3 c.pc ++ "  cycles " ++ Numeral.grouped c.cycles ++ "  key " ++ key
    ++ "  " ++ if c.waitingForKey then "waiting for key" else "running"

/-- The screen after a run. It shows the display, every change of which was
delivered to it. -/
def finalScreen (title : String) (c : Machine) : Except Markup.Fault String :=
  Screen.text { title, status := some (statusLine c), frame := c.display } columns

/-- What is said after a run that was stopped. -/
def closingReport (c : Machine) : String :=
  "Stopped after " ++ Numeral.grouped c.cycles ++ " cycles.\n"
    ++ Panel.around columns (some " Registers ".toList) (Report.registerLines c) ++ "\n"

/-- Runs an image. -/
def run (r : RunRequest) : Session m Unit := do
  let config ← configure r
  let image ← Session.readImage r.path
  let random ← randomSource r config.seed
  let c ← Session.orFail .ofLoadFault
    (Machine.new image (.ofKeypad {}) random .discarding config.rate)
  let c := { c with journal.tracing := r.trace }
  let (c, failure) ← Session.drive (limitOf r config) c
  Session.emitLines .err c.journal.lines.toList
  if !r.headless then
    Session.emit .out (← Session.orFail .markup (finalScreen r.path c))
  match failure with
  | some cause => throw (.failure cause)
  | none => Session.emit .err (closingReport c)
  if r.stats then
    let text ← Session.orFail .statistics (Report.statistics c.statistics)
    Session.emitLines .err [text]

/-- Lists an image as instructions. -/
def disasm (path : String) : Session m Unit := do
  let image ← Session.readImage path
  Session.emitLines .out ((Disassembly.ofImage Image.offset image).map fun l =>
    "0x" ++ Numeral.hex 3 l.address ++ ": " ++ Numeral.hex 4 l.word ++ "  " ++ l.text)

/-- Tells the size of an image and where it is loaded. -/
def info (path : String) : Session m Unit := do
  let image ← Session.readImage path
  let size := image.length
  let last := max (Image.offset + size - 1) Image.offset
  Session.emitLines .out [
    path ++ ": " ++ Numeral.decimal size ++ " bytes",
    "  loaded at 0x" ++ Numeral.hex 3 Image.offset ++ "-0x" ++ Numeral.hex 3 last,
    "  free program memory: " ++ Numeral.decimal (Image.maxSize - size) ++ " bytes"]

/-- Carries a request out. -/
def perform : Request → Session m Unit
  | .run r => run r
  | .disasm path => disasm path
  | .info path => info path
  | .nothing => Session.leave { mainGrammar.helpExit with code := 1 }

/-- Says in one line why an image was refused or a machine stopped. -/
def reportFailure : Ending → Session m Unit
  | .failure (.image r) => Session.refuse r.message
  | .failure (.machine f) => Session.refuse f.message
  | e => throw e

/-- The program, given its arguments. -/
def program (args : List String) : Session m Unit := do
  let r ← Session.orLeave (request args)
  tryCatch (perform r) reportFailure

end ChipEight.Console
