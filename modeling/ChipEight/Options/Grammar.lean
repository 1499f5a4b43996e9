/-!
# Grammars of commands

A grammar names the options of a command and says what else it takes. It also
holds the texts that a command answers with by itself: its help, which ends the
program well, and its usage, which stands in front of every mistake.
-/

namespace ChipEight

/-- How a program ends: its exit code and what it wrote to either stream. -/
structure Exit where
  code : Nat
  out : String := ""
  err : String := ""
  deriving DecidableEq, Repr

namespace Options

/-- An option, which takes a value or not. The help option ends the program. -/
structure Flag where
  names : List String
  takesValue : Bool
  isHelp : Bool := false
  deriving DecidableEq, Repr

/-- The option's name in messages. -/
def Flag.label (f : Flag) : String := String.intercalate "/" f.names

/-- The help option of every command. -/
def Flag.help : Flag := ⟨["-h", "--help"], false, true⟩

/-- What a command takes besides options. -/
inductive Operand where
  /-- Exactly one word. -/
  | one
  /-- One word or none. -/
  | optional
  /-- A word and everything behind it. -/
  | remainder
  deriving DecidableEq, Repr

/-- A command: its name, its usage lines, the rest of its help, its options and
its operand. -/
structure Grammar where
  program : String
  usage : String
  details : String
  flags : List Flag
  operand : Operand
  operandName : String

namespace Grammar

/-- Ends with the help. -/
def helpExit (g : Grammar) : Exit := { code := 0, out := g.usage ++ "\n" ++ g.details }

/-- Ends with a mistake. -/
def mistake (g : Grammar) (message : String) : Exit :=
  { code := 2, err := g.usage ++ g.program ++ ": error: " ++ message ++ "\n" }

/-- Ends with a mistake in an argument. -/
def argumentMistake (g : Grammar) (argument message : String) : Exit :=
  g.mistake ("argument " ++ argument ++ ": " ++ message)

/-- All names with their options, in order. -/
def namedFlags (g : Grammar) : List (String × Flag) :=
  g.flags.flatMap fun f => f.names.map fun n => (n, f)

/-- The option of a full name. -/
def flag? (g : Grammar) (name : String) : Option Flag := g.namedFlags.lookup name

end Grammar

end Options

end ChipEight
