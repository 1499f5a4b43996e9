import ChipEight.Json.Reader
import ChipEight.Json.Shown
import ChipEight.Json.Writer
import ChipEight.Text.Newline
import ChipEight.Text.Utf8

/-!
# Machine configurations

The settings for running a program, as they are kept in a JSON file. Every
setting has a default, so a file need only hold what differs; what a file holds
besides is refused. Settings are checked in a fixed order, and the first that is
wrong is reported.

A rate or a hold that is no number in the sense of comparisons, NaN, passes: it
is not less than anything.
-/

namespace ChipEight

open Text (CodePoint Points)

/-- The settings for running a program. A rate of zero runs as fast as it can; a
hold is how many seconds a keystroke holds its key. -/
structure Config where
  rate : Number := .whole 120000
  maxCycles : Option Nat := none
  seed : Option Int := none
  keyHold : Number := .real 0.15
  keymap : List (CodePoint × Fin 16) := [
    ('1', 0x1), ('2', 0x2), ('3', 0x3), ('4', 0xC),
    ('q', 0x4), ('w', 0x5), ('e', 0x6), ('r', 0xD),
    ('a', 0x7), ('s', 0x8), ('d', 0x9), ('f', 0xE),
    ('z', 0xA), ('x', 0x0), ('c', 0xB), ('v', 0xF)]

namespace Config

/-- The configuration in which every setting has its default. -/
def standard : Config := {}

/-- Why a file is no configuration. -/
inductive Fault where
  /-- The bytes are no text. -/
  | undecodable (f : Text.Utf8.Failure)
  /-- The text is no JSON. -/
  | malformed (text : String) (f : Json.Failure)
  /-- The value is no object. -/
  | notAnObject (path : String)
  /-- There are settings of unknown names. -/
  | unknownKeys (names : List Points)
  | badRate (v : Json)
  | badMaxCycles (v : Json)
  | badSeed (v : Json)
  | badKeyHold (v : Json)
  | badKeymap (v : Json)
  | badKeymapEntry (name : Points) (v : Json)

/-- The one sentence that says what is wrong. -/
def Fault.message : Fault → Points
  | undecodable f => f.message
  | malformed text f => f.message text
  | notAnObject path => path ++ ": expected a JSON object"
  | unknownKeys names => Text.points "unknown config keys: " ++ List.intercalate ", " names
  | badRate v => "rate_hz must be a number >= 0, got " ++ v.shown
  | badMaxCycles v => "max_cycles must be an integer >= 0, got " ++ v.shown
  | badSeed v => "seed must be an integer, got " ++ v.shown
  | badKeyHold v => "key_hold must be a number > 0, got " ++ v.shown
  | badKeymap v => "keymap must be an object, got " ++ v.shown
  | badKeymapEntry name v =>
      "invalid keymap entry " ++ Text.quoted name ++ ": " ++ v.shown

/-- The names of all settings. -/
def names : List Points := ["rate_hz", "max_cycles", "seed", "key_hold", "keymap"]

/-- The rate in a value. -/
def rate? : Json → Except Fault Number
  | .number n => if n.isNegative then .error (.badRate (.number n)) else .ok n
  | v => .error (.badRate v)

/-- The limit in a value. -/
def maxCycles? : Json → Except Fault (Option Nat)
  | .null => .ok none
  | .number (.whole n) =>
      if 0 ≤ n then .ok (some n.toNat) else .error (.badMaxCycles (Json.int n))
  | v => .error (.badMaxCycles v)

/-- The seed in a value. -/
def seed? : Json → Except Fault (Option Int)
  | .null => .ok none
  | .number (.whole n) => .ok (some n)
  | v => .error (.badSeed v)

/-- The hold in a value. -/
def keyHold? : Json → Except Fault Number
  | .number n => if n.isNotAboveZero then .error (.badKeyHold (.number n)) else .ok n
  | v => .error (.badKeyHold v)

/-- An entry of a key map: one code point and one of the sixteen keys. -/
def keymapEntry? (name : Points) (v : Json) : Except Fault (CodePoint × Fin 16) :=
  match name, v with
  | [p], .number (.whole n) =>
      if h : 0 ≤ n ∧ n < 16 then .ok (p, ⟨n.toNat, by omega⟩)
      else .error (.badKeymapEntry name v)
  | _, _ => .error (.badKeymapEntry name v)

/-- The key map in a value. -/
def keymap? : Json → Except Fault (List (CodePoint × Fin 16))
  | .object members => members.mapM fun (name, v) => keymapEntry? name v
  | v => .error (.badKeymap v)

/-- A setting's value if the members hold it, its default otherwise. -/
def setting {α : Type} (members : Json.Members) (name : Points) (missing : α)
    (read : Json → Except Fault α) : Except Fault α :=
  match members.lookup name with
  | none => .ok missing
  | some v => read v

/-- The configuration some members describe. -/
def ofMembers (members : Json.Members) : Except Fault Config := do
  let unknown := (members.map Prod.fst).filter fun n => !names.contains n
  if !unknown.isEmpty then
    throw (.unknownKeys (unknown.mergeSort fun a b => !decide (b < a)))
  return {
    rate := ← setting members "rate_hz" standard.rate rate?
    maxCycles := ← setting members "max_cycles" standard.maxCycles maxCycles?
    seed := ← setting members "seed" standard.seed seed?
    keyHold := ← setting members "key_hold" standard.keyHold keyHold?
    keymap := ← setting members "keymap" standard.keymap keymap? }

/-- The configuration in a text that is read where there is room for so many
containers inside each other; the path is for messages alone. -/
def ofText (room : Nat) (path text : String) : Except Fault Config :=
  match Json.parse room text with
  | .error f => .error (.malformed text f)
  | .ok (.object members) => ofMembers members
  | .ok _ => .error (.notAnObject path)

/-- The configuration in a file with these contents. -/
def ofContents (room : Nat) (path : String) (contents : List UInt8) : Except Fault Config :=
  match Text.Utf8.decode contents with
  | .error f => .error (.undecodable f)
  | .ok cs => ofText room path (String.ofList (Text.unifyNewlines cs))

/-- The configuration as a value, every setting included. -/
def toJson (c : Config) : Json :=
  .object [
    ("rate_hz", .number c.rate),
    ("max_cycles", (c.maxCycles.map fun n => Json.int n).getD .null),
    ("seed", (c.seed.map Json.int).getD .null),
    ("key_hold", .number c.keyHold),
    ("keymap", .object (c.keymap.map fun (p, key) => ([p], Json.int key.val)))]

/-- How configuration files are laid out: a setting on a line, two blanks in. -/
def layout : Json.Layout := some 2

/-- The text of a configuration file. -/
def toText (c : Config) : String := c.toJson.render layout

/-- The key map as a keyboard takes it. -/
def keyNames (c : Config) : Dictionary Points Int :=
  c.keymap.map fun (p, key) => ([p], (key.val : Int))

end Config

end ChipEight
