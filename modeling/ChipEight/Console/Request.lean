import ChipEight.Config
import ChipEight.Console.Grammar
import ChipEight.Numeral.Reading
import ChipEight.Options.Parse
import ChipEight.Options.Setting

/-!
# What a command line asks for

Arguments become a request, or an exit where they are mistaken or ask for help.
What an option holds is read as soon as the option is consumed, and an option
given twice counts as it was given last.
-/

namespace ChipEight

/-- Settings from the command line, which take the place of a configuration's. -/
structure Overrides where
  rate : Options.Setting Number := .unset
  maxCycles : Options.Setting Nat := .unset
  seed : Options.Setting Nat := .unset

namespace Overrides

/-- The configuration with the settings in their place. A hollow setting leaves the
configuration's. -/
def apply (o : Overrides) (c : Config) : Config :=
  { c with
    rate := o.rate.value?.getD c.rate
    maxCycles := (o.maxCycles.value?.map some).getD c.maxCycles
    seed := (o.seed.value?.map fun n => some (n : Int)).getD c.seed }

/-- A configuration as a value in which hollow settings are empty lists. -/
def describe (o : Overrides) (c : Config) : Json :=
  let hollow :=
    (if o.maxCycles.isHollow then [Text.points "max_cycles"] else [])
      ++ if o.seed.isHollow then [Text.points "seed"] else []
  match c.toJson with
  | .object members =>
      .object (members.map fun (n, v) => (n, if hollow.contains n then .array [] else v))
  | v => v

end Overrides

namespace Console

/-- What is asked for when an image is to be run. -/
structure RunRequest where
  path : String := ""
  config : Option String := none
  saveConfig : Option String := none
  overrides : Overrides := {}
  headless : Bool := false
  trace : Bool := false
  stats : Bool := false

/-- What is asked for. -/
inductive Request where
  | run (r : RunRequest)
  | disasm (path : String)
  | info (path : String)
  /-- No command was given. -/
  | nothing

/-- An integer that is not negative. -/
def natural (text : String) : Except String Nat :=
  match Numeral.Reading.anyInteger? text with
  | none => .error ("invalid integer '" ++ text ++ "'")
  | some n => if n < 0 then .error ("must be >= 0, got " ++ text) else .ok n.toNat

/-- A real number. -/
def real (text : String) : Except String Number :=
  match Numeral.Reading.real? text with
  | none => .error ("invalid float value: " ++ Text.quoted text)
  | some x => .ok (.real x)

/-- A request with one more option in it. -/
def RunRequest.withFlag (r : RunRequest) (f : Options.Flag) (values : List String) :
    Except String RunRequest :=
  match f.label with
  | "--config" => return { r with config := Options.nonempty? values }
  | "--save-config" => return { r with saveConfig := Options.nonempty? values }
  | "--rate" => return { r with overrides.rate := ← Options.Setting.read real values }
  | "--max-cycles" => return { r with overrides.maxCycles := ← Options.Setting.read natural values }
  | "--seed" => return { r with overrides.seed := ← Options.Setting.read natural values }
  | "--headless" => return { r with headless := true }
  | "--trace" => return { r with trace := true }
  | "--stats" => return { r with stats := true }
  | _ => return r

/-- Takes in the options and the path of a run. -/
def runHandler : Options.Handler RunRequest where
  onFlag := RunRequest.withFlag
  onOperand r words := .ok { r with path := words.headD "" }

/-- Takes in a path. -/
def pathHandler : Options.Handler String where
  onFlag path _ _ := .ok path
  onOperand _ words := .ok (words.headD "")

/-- What a command and the arguments behind it ask for, with what is left over. -/
def requestOf (command : String) (args : List String) :
    Except Exit (Request × List String) :=
  match command with
  | "run" => do
      let (r, extras) ← Options.parse runGrammar runHandler {} args
      return (.run r, extras)
  | "disasm" => do
      let (path, extras) ← Options.parse (imageGrammar "disasm") pathHandler "" args
      return (.disasm path, extras)
  | "info" => do
      let (path, extras) ← Options.parse (imageGrammar "info") pathHandler "" args
      return (.info path, extras)
  | other =>
      let choices := commands.map fun name : String => Text.quoted name
      .error (mainGrammar.argumentMistake "command" ("invalid choice: " ++ Text.quoted other
        ++ " (choose from " ++ String.intercalate ", " choices ++ ")"))

/-- Takes in a command. -/
def mainHandler : Options.Handler (Request × List String) where
  onFlag s _ _ := .ok s
  onOperand _ words := requestOf (words.headD "") words.tail

/-- What a command line asks for. -/
def request (args : List String) : Except Exit Request := do
  let ((r, inner), outer) ← Options.parse mainGrammar mainHandler (.nothing, []) args
  Options.refuseExtras mainGrammar (outer ++ inner)
  return r

end Console

end ChipEight
