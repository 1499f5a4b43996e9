import ChipEight.Options.Token
import ChipEight.Text.Quoted

/-!
# Consuming arguments

Tokens are consumed from left to right, and each option or operand is handed on
at once, so of two mistakes the first one is reported. Only what makes an option
ambiguous is noticed before. What nothing takes is left over, and the caller
decides about it.
-/

namespace ChipEight.Options

/-- What becomes of options and operands: functions that take them into a state
or say what is wrong with them. An option comes with its value in a list, which is
empty where it takes none or where none was given. -/
structure Handler (σ : Type) where
  onFlag : σ → Flag → List String → Except String σ
  onOperand : σ → List String → Except Exit σ

/-- A command line in the course of being consumed. -/
structure Progress (σ : Type) where
  state : σ
  operandTaken : Bool := false
  extras : List String := []

/-- The options that one argument names: those without a value in front, and the last
one with the value attached to it. -/
structure Bundle where
  front : List Flag := []
  last : Flag
  value : Option String := none

/-- The mistake of a value that an option does not take. -/
def ignoredValue (g : Grammar) (f : Flag) (value : String) : Exit :=
  g.argumentMistake f.label ("ignored explicit argument " ++ Text.quoted value)

/-- An option with a value behind an equals sign. -/
def bundleEquals (g : Grammar) (f : Flag) (value : String) : Except Exit Bundle :=
  if f.takesValue then .ok { last := f, value }
  else .error (ignoredValue g f value)

/-- An option with letters adjoined to it: its value if it takes one, and further
options of one letter otherwise. -/
def bundleAdjoined (g : Grammar) (f : Flag) : List Char → Except Exit Bundle
  | [] => .ok { last := f }
  | c :: rest =>
      if f.takesValue then .ok { last := f, value := String.ofList (c :: rest) }
      else
        match g.flag? (String.ofList ['-', c]) with
        | none => .error (ignoredValue g f (String.ofList (c :: rest)))
        | some next =>
            (bundleAdjoined g next rest).map fun b => { b with front := f :: b.front }

/-- The options of a token. -/
def bundle (g : Grammar) (f : Flag) : Option Attached → Except Exit Bundle
  | none => .ok { last := f }
  | some (.behindEquals value) => bundleEquals g f value
  | some (.adjoined cs) => bundleAdjoined g f cs

/-- What a value amounts to. The separator in the place of a value is no value. -/
def values (value : String) : List String := if value = "--" then [] else [value]

/-- The values of the last option of a bundle, which may be the next word, and the
tokens behind. -/
def lastValues (g : Grammar) (b : Bundle) (ts : List Token) :
    Except Exit (List String × List Token) :=
  match b.value, ts with
  | some value, ts => .ok (values value, ts)
  | none, ts =>
      if b.last.takesValue then
        match ts with
        | .word value :: rest => .ok ([value], rest)
        | _ => .error (g.argumentMistake b.last.label "expected one argument")
      else .ok ([], ts)

section

variable {σ : Type}

/-- Hands an option on. -/
def takeFlag (g : Grammar) (h : Handler σ) (s : σ) (f : Flag) (given : List String) :
    Except Exit σ :=
  if f.isHelp then .error g.helpExit
  else
    match h.onFlag s f given with
    | .ok s => .ok s
    | .error message => .error (g.argumentMistake f.label message)

/-- Hands on what a token names, with a value from the tokens behind it. -/
def consumeFlag (g : Grammar) (h : Handler σ) (p : Progress σ) (f : Flag)
    (attached : Option Attached) (behind : List Token) :
    Except Exit (Progress σ × List Token) := do
  let b ← bundle g f attached
  let (given, rest) ← lastValues g b behind
  let s ← (b.front.map (·, []) ++ [(b.last, given)]).foldlM
    (fun s (f, given) => takeFlag g h s f given) p.state
  return ({ p with state := s }, rest)

/-- The tokens an operand takes from the front, if it can be satisfied there.
Separators around its word go with it. -/
def operandSpan? (o : Operand) (ts : List Token) : Option (List Token × List Token) :=
  let front := ts.takeWhile Token.isSeparator
  match o, ts.dropWhile Token.isSeparator with
  | .remainder, .word w :: rest => some (front ++ .word w :: rest, [])
  | .remainder, _ => none
  | _, .word w :: rest =>
      some (front ++ .word w :: rest.takeWhile Token.isSeparator,
        rest.dropWhile Token.isSeparator)
  | .one, _ => none
  | .optional, rest => some (front, rest)

/-- What an operand takes, as it is handed on: where it is a single word, without
the first separator. -/
def operandWords (o : Operand) (ts : List Token) : List String :=
  let raws := ts.map Token.raw
  if o = .remainder then raws else raws.erase "--"

/-- Lets the operand take what it can from the front. -/
def consumeOperand (g : Grammar) (h : Handler σ) (p : Progress σ) (ts : List Token) :
    Except Exit (Progress σ × List Token) :=
  if p.operandTaken then .ok (p, ts)
  else
    match operandSpan? g.operand ts with
    | none => .ok (p, ts)
    | some (taken, rest) => do
        let s ← h.onOperand p.state (operandWords g.operand taken)
        return ({ p with state := s, operandTaken := true }, rest)

/-- Leaves tokens over. -/
def leave (p : Progress σ) (ts : List Token) : Progress σ :=
  { p with extras := p.extras ++ ts.map Token.raw }

/-- Consumes tokens from left to right. Each round takes a token at least, so as
many rounds as tokens suffice. -/
def consume (g : Grammar) (h : Handler σ) :
    Nat → Progress σ → List Token → Except Exit (Progress σ)
  | 0, p, ts => .ok (leave p ts)
  | rounds + 1, p, ts =>
      if ts.any Token.isOption then
        match ts with
        | .flag f attached _ :: behind => do
            let (p, rest) ← consumeFlag g h p f attached behind
            consume g h rounds p rest
        | .unknown raw :: behind => consume g h rounds (leave p [.unknown raw]) behind
        | ts => do
            let (p, rest) ← consumeOperand g h p ts
            if rest.length < ts.length then consume g h rounds p rest
            else
              consume g h rounds (leave p (ts.takeWhile (!·.isOption)))
                (ts.dropWhile (!·.isOption))
      else do
        let (p, rest) ← consumeOperand g h p ts
        return leave p rest

/-- Parses arguments. The answer is the state in the end and what was left over. -/
def parse (g : Grammar) (h : Handler σ) (s : σ) (args : List String) :
    Except Exit (σ × List String) := do
  let ts ← classifyAll g args
  let p ← consume g h (ts.length + 1) { state := s } ts
  if g.operand = .one && !p.operandTaken then
    throw (g.mistake ("the following arguments are required: " ++ g.operandName))
  return (p.state, p.extras)

/-- Refuses arguments that are left over. -/
def refuseExtras (g : Grammar) (extras : List String) : Except Exit Unit :=
  if extras.isEmpty then .ok ()
  else .error (g.mistake ("unrecognized arguments: " ++ String.intercalate " " extras))

end

end ChipEight.Options
