import ChipEight.Benchmark.Command
import ChipEight.Benchmark.Component
import ChipEight.Benchmark.Report
import ChipEight.Benchmark.Workload
import ChipEight.CallStack
import ChipEight.Config
import ChipEight.Console.Commands
import ChipEight.Console.Grammar
import ChipEight.Console.Request
import ChipEight.Dictionary
import ChipEight.Display
import ChipEight.Fault
import ChipEight.Files
import ChipEight.Font
import ChipEight.HalfBlock
import ChipEight.Host.Basic
import ChipEight.Host.Session
import ChipEight.Host.Surroundings
import ChipEight.Host.System
import ChipEight.Image
import ChipEight.Instruction.Arithmetic
import ChipEight.Instruction.Basic
import ChipEight.Instruction.Decode
import ChipEight.Instruction.Disassembly
import ChipEight.Instruction.Mnemonic
import ChipEight.Instruction.Operation
import ChipEight.Json.Basic
import ChipEight.Json.Reader
import ChipEight.Json.Shown
import ChipEight.Json.Writer
import ChipEight.KeyInput
import ChipEight.Keyboard
import ChipEight.Keypad
import ChipEight.Machine.Basic
import ChipEight.Machine.Execute
import ChipEight.Machine.Run
import ChipEight.Machine.Step
import ChipEight.Main
import ChipEight.Markup.Basic
import ChipEight.Markup.Color
import ChipEight.Markup.Emoji
import ChipEight.Markup.EmojiNames
import ChipEight.Markup.Style
import ChipEight.Memory
import ChipEight.Numeral.Binary64
import ChipEight.Numeral.Fixed
import ChipEight.Numeral.Hex
import ChipEight.Numeral.Number
import ChipEight.Numeral.Power
import ChipEight.Numeral.Reading
import ChipEight.Numeral.Shortest
import ChipEight.Options.Grammar
import ChipEight.Options.Parse
import ChipEight.Options.Setting
import ChipEight.Options.Token
import ChipEight.Output
import ChipEight.Pacing
import ChipEight.Panel
import ChipEight.Proofs.CallStack
import ChipEight.Proofs.CallStack.Requests
import ChipEight.Proofs.Config.Accepted
import ChipEight.Proofs.Config.Saved
import ChipEight.Proofs.Console.Configure
import ChipEight.Proofs.Console.Effective
import ChipEight.Proofs.Console.Request
import ChipEight.Proofs.Dictionary
import ChipEight.Proofs.Display
import ChipEight.Proofs.Display.Drawing
import ChipEight.Proofs.Except
import ChipEight.Proofs.Files
import ChipEight.Proofs.HalfBlock
import ChipEight.Proofs.Instruction.Assembly
import ChipEight.Proofs.Instruction.Operation
import ChipEight.Proofs.Instruction.Pattern
import ChipEight.Proofs.Json.Ascii
import ChipEight.Proofs.Json.Grammar
import ChipEight.Proofs.Json.Members
import ChipEight.Proofs.Json.Numbers
import ChipEight.Proofs.Json.Reading
import ChipEight.Proofs.Json.Strings
import ChipEight.Proofs.Json.Writing
import ChipEight.Proofs.Keyboard
import ChipEight.Proofs.Keyboard.Letters
import ChipEight.Proofs.Keypad.Delivery
import ChipEight.Proofs.Keypad.Nesting
import ChipEight.Proofs.Keypad.Quiet
import ChipEight.Proofs.Keypad.Rounds
import ChipEight.Proofs.Keypad.Views
import ChipEight.Proofs.Machine.Action
import ChipEight.Proofs.Machine.Arithmetic
import ChipEight.Proofs.Machine.Bounds
import ChipEight.Proofs.Machine.Cycle
import ChipEight.Proofs.Machine.Dispatch
import ChipEight.Proofs.Machine.Effect
import ChipEight.Proofs.Machine.Faults
import ChipEight.Proofs.Machine.Footprint
import ChipEight.Proofs.Machine.Frames
import ChipEight.Proofs.Machine.Grammar
import ChipEight.Proofs.Machine.ImageListing
import ChipEight.Proofs.Machine.Journal
import ChipEight.Proofs.Machine.KeyWait
import ChipEight.Proofs.Machine.Ledger
import ChipEight.Proofs.Machine.Listing
import ChipEight.Proofs.Machine.Loading
import ChipEight.Proofs.Machine.Lockstep
import ChipEight.Proofs.Machine.Pace
import ChipEight.Proofs.Machine.Period
import ChipEight.Proofs.Machine.Persistence
import ChipEight.Proofs.Machine.Redraw
import ChipEight.Proofs.Machine.RegisterRow
import ChipEight.Proofs.Machine.Run
import ChipEight.Proofs.Machine.Skip
import ChipEight.Proofs.Machine.Subroutine
import ChipEight.Proofs.Machine.Throttle
import ChipEight.Proofs.Machine.Timers
import ChipEight.Proofs.Machine.Unread
import ChipEight.Proofs.Machine.Unused
import ChipEight.Proofs.Memory
import ChipEight.Proofs.Memory.History
import ChipEight.Proofs.Numeral.Binary64
import ChipEight.Proofs.Numeral.Hex
import ChipEight.Proofs.Numeral.Parts
import ChipEight.Proofs.Options
import ChipEight.Proofs.Pacing
import ChipEight.Proofs.Registers
import ChipEight.Proofs.Report.Categories
import ChipEight.Proofs.Report.Columns
import ChipEight.Proofs.Report.Statistics
import ChipEight.Proofs.Tally
import ChipEight.Proofs.Text.Points
import ChipEight.Proofs.Text.Utf8
import ChipEight.Random.Source
import ChipEight.Random.Twister
import ChipEight.Registers
import ChipEight.Report.RegisterPanel
import ChipEight.Report.Statistics
import ChipEight.Screen
import ChipEight.Tally
import ChipEight.Text.Align
import ChipEight.Text.Blank
import ChipEight.Text.Cased
import ChipEight.Text.CellWidth
import ChipEight.Text.CodeRange
import ChipEight.Text.Digit
import ChipEight.Text.Lowercase
import ChipEight.Text.Newline
import ChipEight.Text.Points
import ChipEight.Text.Printable
import ChipEight.Text.Quoted
import ChipEight.Text.Utf8
import ChipEight.Text.Wrap
import ChipEight.Timeline
import ChipEight.Word
