import ChipEight.Dictionary
import ChipEight.Keypad
import ChipEight.Text.Lowercase
import ChipEight.Text.Utf8
import ChipEight.Timeline

/-!
# The terminal keyboard

A terminal tells when a key goes down but not when it comes up. So each mapped
keystroke holds its key for a time, and repeats of it, while it is held, move
the end of that time on. Keystrokes for other keys are dropped meanwhile.

Letters are mapped regardless of their case: the map is kept in lower case, and
of entries that fall together the last one counts, in the place of the first.

A keyboard that was stopped skips the next reading and is ready again after it.

Nothing here depends on what kind of numbers times are, except that a later time
may not exist.
-/

namespace ChipEight

open Text (Points)

/-- A keypad driven by keystrokes: the key they hold and when it is let go. -/
structure Keyboard (τ : Type) where
  keypad : Keypad := {}
  keymap : Dictionary Points Int
  hold : τ
  held : Option Int := none
  releaseAt : τ
  stopped : Bool := false

namespace Keyboard

/-- Why a keystroke fails. -/
inductive Fault where
  /-- It is mapped to what is no key. -/
  | invalidKey (f : Keypad.InvalidKey)
  /-- The end of its hold cannot be computed. -/
  | noEnd (f : ArithmeticFault)
  deriving DecidableEq, Repr

/-- The one sentence that says what happened. -/
def Fault.message : Fault → String
  | invalidKey f => f.message
  | noEnd f => f.message

/-- A map in lower case. -/
def lowered (keymap : Dictionary Points Int) : Dictionary Points Int :=
  keymap.foldl (fun m e => m.put (Text.lower e.1) e.2) []

variable {τ : Type}

/-- A keyboard on a keypad that nothing holds. -/
def new (keymap : Dictionary Points Int) (hold start : τ) : Keyboard τ :=
  { keymap := lowered keymap, hold := hold, releaseAt := start }

/-- A keyboard together with how its last action ended. -/
abbrev Result (τ α : Type) := Keyboard τ × Except Fault α

/-- The keyboard after a call to its keypad, with the answer. -/
def onKeypad (k : Keyboard τ) (call : Keypad.Call) : Result τ (Option Bool) :=
  let (pad, answer) := k.keypad.perform call
  ({ k with keypad := pad }, answer.mapError .invalidKey)

section

variable [Timeline τ]

/-- Moves the end of the hold to one hold after a time. -/
def extend (k : Keyboard τ) (now : τ) : Result τ Unit :=
  match Timeline.later now k.hold with
  | .ok t => ({ k with releaseAt := t }, .ok ())
  | .error f => (k, .error (.noEnd f))

/-- One keystroke at a time. -/
def feed (k : Keyboard τ) (text : Points) (now : τ) : Result τ Unit :=
  match k.keymap.lookup (Text.lower text) with
  | none => (k, .ok ())
  | some key =>
      if k.held = some key then k.extend now
      else if k.held.isSome then (k, .ok ())
      else
        match k.onKeypad (.press key) with
        | (k, .error f) => (k, .error f)
        | (k, .ok (some true)) => { k with held := some key }.extend now
        | (k, .ok _) => (k, .ok ())

/-- Keystrokes in order at one time, up to the first that fails. -/
def feedAll (now : τ) : List Char → Keyboard τ → Result τ Unit
  | [], k => (k, .ok ())
  | c :: rest, k =>
      match k.feed [.char c] now with
      | (k, .ok _) => feedAll now rest k
      | (k, .error f) => (k, .error f)

end

section

variable [LE τ] [DecidableLE τ]

/-- Lets the held key go once its time has come. -/
def expire (k : Keyboard τ) (now : τ) : Result τ Unit :=
  match k.held with
  | none => (k, .ok ())
  | some key =>
      if k.releaseAt ≤ now then
        match k.onKeypad (.release key) with
        | (k, .error f) => (k, .error f)
        | (k, .ok _) => ({ k with held := none }, .ok ())
      else (k, .ok ())

end

/-- Lets every key go, and skips the next reading. -/
def stop (k : Keyboard τ) : Result τ Unit :=
  match { k with stopped := true }.onKeypad .releaseAll with
  | (k, .error f) => (k, .error f)
  | (k, .ok _) => ({ k with held := none }, .ok ())

section

variable [Timeline τ] [LE τ] [DecidableLE τ]

/-- The bytes that are read at a time. -/
def readSize : Nat := 32

/-- Bytes in the portions in which they are read; none at all are one portion. -/
def portions : Nat → List UInt8 → List (List UInt8)
  | 0, bytes => [bytes]
  | fuel + 1, bytes =>
      if bytes.length ≤ readSize then [bytes]
      else bytes.take readSize :: portions fuel (bytes.drop readSize)

/-- One round of reading: keystrokes, then whatever has expired. Bytes that are
no characters are dropped. -/
def round (k : Keyboard τ) (bytes : List UInt8) (now : τ) : Result τ Unit :=
  match feedAll now (Text.Utf8.decodeValid bytes) k with
  | (k, .error f) => (k, .error f)
  | (k, .ok _) => k.expire now

/-- Rounds of reading, each with its bytes and its time. The answer is the key
held after each. -/
def rounds : List (List UInt8 × τ) → Keyboard τ → Result τ (List (Option Int))
  | [], k => (k, .ok [])
  | (bytes, now) :: rest, k =>
      match k.round bytes now with
      | (k, .error f) => (k, .error f)
      | (k, .ok _) =>
          let (k', answer) := rounds rest k
          (k', answer.map (k.keypad.held :: ·))

/-- Reads chunks of bytes that arrive at given times, unless the keyboard was
stopped. -/
def pump (chunks : List (List UInt8 × τ)) (k : Keyboard τ) : Result τ (List (Option Int)) :=
  if k.stopped then ({ k with stopped := false }, .ok [])
  else
    rounds
      (chunks.flatMap fun (bytes, now) => (portions bytes.length bytes).map fun p => (p, now))
      k

end

end Keyboard

end ChipEight
