import ChipEight.Keypad

/-!
# What the machine asks for the held key

A machine polls its input device and takes whatever it answers. The device is a
keypad, or a script that fixes the answer of every poll in advance. The polls
are counted.
-/

namespace ChipEight

/-- How an input device answers. -/
inductive KeySource where
  /-- The answers, by the number of the poll. -/
  | script (answer : Nat → Option Int)
  /-- The key held on a keypad. -/
  | keypad (pad : Keypad)

/-- An input device that has been polled so many times. -/
structure KeyInput where
  source : KeySource
  polls : Nat := 0

namespace KeyInput

/-- A device that gives these answers in turn and then repeats the last. -/
def scripted (answers : List (Option Int)) : KeyInput :=
  { source := .script fun n => answers.getD (min n (answers.length - 1)) none }

/-- A device that answers with the key held on a keypad. -/
def ofKeypad (pad : Keypad) : KeyInput := { source := .keypad pad }

/-- One poll. -/
def poll (i : KeyInput) : Option Int × KeyInput :=
  let answer :=
    match i.source with
    | .script answer => answer i.polls
    | .keypad pad => pad.held
  (answer, { i with polls := i.polls + 1 })

/-- The keypad of the device, if it is one. -/
def keypad? (i : KeyInput) : Option Keypad :=
  match i.source with
  | .script _ => none
  | .keypad pad => some pad

end KeyInput

end ChipEight
