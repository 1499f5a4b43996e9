import ChipEight.Options.Grammar

/-!
# The command line

The commands, their options and their help.
-/

namespace ChipEight.Console

open Options (Flag Grammar)

/-- The names of the commands. -/
def commands : List String := ["run", "disasm", "info"]

/-- The program itself: a command and everything behind it. -/
def mainGrammar : Grammar where
  program := "chip8"
  usage := "usage: chip8 [-h] \x7brun,disasm,info\x7d ...\n"
  details := "CHIP-8 Virtual Machine

positional arguments:
  \x7brun,disasm,info\x7d
    run              Run a program image
    disasm           Disassemble a program image
    info             Show program image size

options:
  -h, --help         show this help message and exit
"
  flags := [.help]
  operand := .remainder
  operandName := "command"

/-- Running an image. -/
def runGrammar : Grammar where
  program := "chip8 run"
  usage := "usage: chip8 run [-h] [--config CONFIG] [--rate HZ] [--max-cycles N]
                 [--seed SEED] [--save-config FILE] [--headless] [--trace]
                 [--stats]
                 rom
"
  details := "positional arguments:
  rom                 Path to program image

options:
  -h, --help          show this help message and exit
  --config CONFIG     JSON machine configuration file
  --rate HZ           Instructions per second (0 = unthrottled)
  --max-cycles N      Stop after N instructions
  --seed SEED         Seed for the random number instruction
  --save-config FILE  Write the effective configuration to FILE before running
  --headless          Run without display or keyboard
  --trace             Log every executed instruction
  --stats             Print instruction statistics on exit
"
  flags := [.help, ⟨["--config"], true, false⟩, ⟨["--rate"], true, false⟩,
    ⟨["--max-cycles"], true, false⟩, ⟨["--seed"], true, false⟩,
    ⟨["--save-config"], true, false⟩, ⟨["--headless"], false, false⟩,
    ⟨["--trace"], false, false⟩, ⟨["--stats"], false, false⟩]
  operand := .one
  operandName := "rom"

/-- A command that takes an image and nothing else. -/
def imageGrammar (command : String) : Grammar where
  program := "chip8 " ++ command
  usage := "usage: chip8 " ++ command ++ " [-h] rom\n"
  details := "positional arguments:
  rom         Path to program image

options:
  -h, --help  show this help message and exit
"
  flags := [.help]
  operand := .one
  operandName := "rom"

end ChipEight.Console
