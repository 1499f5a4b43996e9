import ChipEight.Console.Commands
import ChipEight.Host.System

/-!
# The program

The command line on the real system. What a session failed for and did not deal with
is told in one line.
-/

open ChipEight

/-- Runs the command line and answers its exit code. -/
def main (args : List String) : IO UInt32 := do
  match ← (Console.program (m := IO) args).ending with
  | .exit code => return code.toUInt32
  | .failure cause =>
      IO.eprintln cause.message
      return 1
