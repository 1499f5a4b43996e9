import ChipEight.Options.Grammar
import ChipEight.Text.Digit

/-!
# Telling arguments apart

Before anything is consumed, every argument is found to be a word, an option or
the separator behind which everything is a word. A known option may be shortened
as long as it stays unambiguous, and may hold its value behind an equals sign or,
after one hyphen and one letter, without any sign. An argument that looks like a
negative number or holds a blank is a word, though it begins with a hyphen,
unless it may stand for an option.
-/

namespace ChipEight.Options

/-- A value written in one argument with its option. -/
inductive Attached where
  | behindEquals (value : String)
  | adjoined (value : List Char)

/-- An argument told apart. -/
inductive Token where
  | word (raw : String)
  | separator
  /-- A known option with what is attached to it. -/
  | flag (f : Flag) (attached : Option Attached) (raw : String)
  /-- Something that looks like an option but is none. -/
  | unknown (raw : String)

namespace Token

/-- The argument as it was written. -/
def raw : Token → String
  | word r => r
  | separator => "--"
  | flag _ _ r => r
  | unknown r => r

/-- Whether a token is an option, known or not. -/
def isOption : Token → Bool
  | flag .. => true
  | unknown _ => true
  | _ => false

/-- Whether a token is the separator. -/
def isSeparator : Token → Bool
  | separator => true
  | _ => false

end Token

/-- Splits at the first equals sign. -/
def splitEquals (s : String) : Option (String × String) :=
  let cs := s.toList
  match cs.dropWhile (· != '=') with
  | [] => none
  | _ :: value => some (String.ofList (cs.takeWhile (· != '=')), String.ofList value)

/-- Whether only the end of a text is left, or an end of line in front of it. -/
def isEnd (cs : List Char) : Bool := cs.isEmpty || cs == ['\n']

/-- Whether an argument looks like a negative number: a hyphen, digits and, if
there is a point, digits behind it. An end of line behind it is overlooked. -/
def looksNegative (s : String) : Bool :=
  let isDigit := fun c => (Text.digitValue? c).isSome
  match s.toList with
  | '-' :: rest =>
      match rest.dropWhile isDigit with
      | '.' :: decimals =>
          !(decimals.takeWhile isDigit).isEmpty && isEnd (decimals.dropWhile isDigit)
      | behind => !(rest.takeWhile isDigit).isEmpty && isEnd behind
  | _ => false

/-- A value behind the equals sign of a full name. Behind one letter it counts as
adjoined, unless it is empty. -/
def attachedTo (name value : String) : Attached :=
  if name.startsWith "--" || value.isEmpty then .behindEquals value
  else .adjoined value.toList

/-- What an argument may stand for: the full names that it shortens, each with
its option and the value attached to it. -/
def candidates (g : Grammar) (s : String) : List (String × Flag × Option Attached) :=
  if s.startsWith "--" then
    let (stem, value) := ((splitEquals s).map fun (n, v) => (n, some v)).getD (s, none)
    (g.namedFlags.filter fun (n, _) => n.startsWith stem).map fun (n, f) =>
      (n, f, value.map .behindEquals)
  else
    let letter := String.ofList (s.toList.take 2)
    g.namedFlags.filterMap fun (n, f) =>
      if n = letter then some (n, f, some (.adjoined (s.toList.drop 2)))
      else if n.startsWith s then some (n, f, none)
      else none

/-- The token of an argument that begins with a hyphen and holds no full name. -/
def classifyPartial (g : Grammar) (s : String) : Except Exit Token :=
  match candidates g s with
  | [(_, f, attached)] => .ok (.flag f attached s)
  | [] =>
      if looksNegative s || s.toList.contains ' ' then .ok (.word s) else .ok (.unknown s)
  | several =>
      .error (g.mistake ("ambiguous option: " ++ s ++ " could match "
        ++ String.intercalate ", " (several.map Prod.fst)))

/-- The token of an argument in front of the separator. -/
def classify (g : Grammar) (s : String) : Except Exit Token :=
  if !s.startsWith "-" || s = "-" then .ok (.word s)
  else
    match g.flag? s, splitEquals s with
    | some f, _ => .ok (.flag f none s)
    | none, none => classifyPartial g s
    | none, some (name, value) =>
        match g.flag? name with
        | some f => .ok (.flag f (some (attachedTo name value)) s)
        | none => classifyPartial g s

/-- The tokens of all arguments. -/
def classifyAll (g : Grammar) : List String → Except Exit (List Token)
  | [] => .ok []
  | s :: rest =>
      if s = "--" then .ok (.separator :: rest.map .word)
      else do
        let t ← classify g s
        return t :: (← classifyAll g rest)

end ChipEight.Options
