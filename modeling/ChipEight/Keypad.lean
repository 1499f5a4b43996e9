import ChipEight.Numeral.Hex

/-!
# The keypad

Sixteen keys of which at most one is held. While a key is held, pressing
another does nothing until the first is released.

Listeners are told of every change. Being told, a listener may call the keypad
itself, and such a call is complete, with the listeners it tells, before the
next listener hears of the first change. What a listener will do is data: a
plan of reactions, each spent on the first change of its direction that finds
it there. A call therefore ends: every call made from inside another has used
up a reaction, so `Call.weight` bounds how deep they can nest.

The keypad keeps a history of the changes that were made, of the listeners that
were registered, and of what each of them heard, in the order of these events.
-/

namespace ChipEight

namespace Keypad

mutual

/-- What can be asked of a keypad. -/
inductive Call where
  | press (key : Int)
  | release (key : Int)
  | releaseAll
  | listen (name : String) (plan : List Reaction)

/-- Calls that a listener makes when it first hears a change of this direction. -/
inductive Reaction where
  | mk (down : Bool) (calls : List Call)

end

namespace Reaction

/-- The direction a reaction waits for. -/
def down : Reaction → Bool
  | mk down _ => down

/-- What a reaction does. -/
def calls : Reaction → List Call
  | mk _ calls => calls

end Reaction

mutual

/-- How many reactions a call brings with it. -/
def Call.weight : Call → Nat
  | .press _ => 0
  | .release _ => 0
  | .releaseAll => 0
  | .listen _ plan => planWeight plan

/-- How many reactions a plan holds, with those that they bring. -/
def planWeight : List Reaction → Nat
  | [] => 0
  | r :: rest => Reaction.weight r + planWeight rest

/-- A reaction counts once, and its calls with what they bring. -/
def Reaction.weight : Reaction → Nat
  | .mk _ calls => callsWeight calls + 1

/-- How many reactions some calls bring together. -/
def callsWeight : List Call → Nat
  | [] => 0
  | c :: rest => Call.weight c + callsWeight rest

end

/-- A registered listener with the reactions it has left. -/
structure Listener where
  name : String
  plan : List Reaction

/-- Something that happened at the keypad. -/
inductive Event where
  /-- The held key changed. -/
  | changed (key : Int) (down : Bool)
  /-- A listener took this place. -/
  | registered (place : Nat)
  /-- The listener at this place was told of a change. -/
  | heard (place : Nat) (key : Int) (down : Bool)
  deriving DecidableEq, Repr

/-- A key that is none of the sixteen. -/
structure InvalidKey where
  key : Int
  deriving DecidableEq, Repr

/-- The one sentence that says what happened. -/
def InvalidKey.message (f : InvalidKey) : String :=
  "Invalid key: " ++ Numeral.decimal f.key ++ " (expected 0x0-0xF)"

end Keypad

/-- The held key, the listeners in the order they came, and the history. -/
structure Keypad where
  held : Option Int := none
  listeners : Array Keypad.Listener := #[]
  history : Array Keypad.Event := #[]

namespace Keypad

/-- The number of keys. -/
def keyCount : Int := 16

/-- What a call answers: whether a press or a release changed anything. -/
abbrev Answer := Except InvalidKey (Option Bool)

/-- A way to carry out the calls that a listener makes. -/
abbrev Performer := Call → Keypad → Keypad × Answer

/-- The keypad with an event added to its history. -/
def record (k : Keypad) (e : Event) : Keypad := { k with history := k.history.push e }

/-- The first reaction for a direction, and the plan without it. -/
def takeReaction (down : Bool) : List Reaction → Option (List Call) × List Reaction
  | [] => (none, [])
  | r :: rest =>
      if r.down = down then (some r.calls, rest)
      else
        let (found, left) := takeReaction down rest
        (found, r :: left)

/-- Carries out calls in order, up to the first that fails. -/
def performAll (perform : Performer) : List Call → Keypad → Keypad × Except InvalidKey Unit
  | [], k => (k, .ok ())
  | c :: rest, k =>
      match perform c k with
      | (k, .ok _) => performAll perform rest k
      | (k, .error f) => (k, .error f)

/-- Tells one listener, which spends a reaction before it acts. -/
def tell (perform : Performer) (place : Nat) (key : Int) (down : Bool) (k : Keypad) :
    Keypad × Except InvalidKey Unit :=
  match k.listeners[place]? with
  | none => (k, .ok ())
  | some l =>
      let k := k.record (.heard place key down)
      match takeReaction down l.plan with
      | (none, _) => (k, .ok ())
      | (some calls, left) =>
          performAll perform calls
            { k with listeners := k.listeners.setIfInBounds place { l with plan := left } }

/-- Tells listeners in order, up to the first that fails. -/
def tellAll (perform : Performer) (key : Int) (down : Bool) :
    List Nat → Keypad → Keypad × Except InvalidKey Unit
  | [], k => (k, .ok ())
  | place :: rest, k =>
      match tell perform place key down k with
      | (k, .ok _) => tellAll perform key down rest k
      | (k, .error f) => (k, .error f)

/-- Makes a change and tells the listeners that are registered at that moment. -/
def change (perform : Performer) (held : Option Int) (key : Int) (down : Bool)
    (k : Keypad) : Keypad × Except InvalidKey Unit :=
  let k := { k with held := held }.record (.changed key down)
  tellAll perform key down (List.range k.listeners.size) k

/-- Refuses what is no key. -/
def checked (key : Int) (k : Keypad) (act : Keypad × Answer) : Keypad × Answer :=
  if 0 ≤ key ∧ key < keyCount then act else (k, .error ⟨key⟩)

/-- Answers a call after the change that it made. -/
def answering (answer : Option Bool) :
    Keypad × Except InvalidKey Unit → Keypad × Answer
  | (k, .ok _) => (k, .ok answer)
  | (k, .error f) => (k, .error f)

/-- Carries out one call, and by `perform` the calls that listeners make. -/
def performWith (perform : Performer) : Performer
  | .press key, k =>
      checked key k <|
        if k.held.isSome then (k, .ok (some false))
        else answering (some true) (change perform (some key) key true k)
  | .release key, k =>
      checked key k <|
        if k.held = some key then answering (some true) (change perform none key false k)
        else (k, .ok (some false))
  | .releaseAll, k =>
      match k.held with
      | none => (k, .ok none)
      | some key => answering none (change perform none key false k)
  | .listen name plan, k =>
      ({ k with listeners := k.listeners.push ⟨name, plan⟩ }.record
        (.registered k.listeners.size), .ok none)

/-- Carries out a call with calls from inside calls down to a depth. -/
def performWithin : Nat → Performer
  | 0 => performWith fun _ k => (k, .ok none)
  | depth + 1 => performWith (performWithin depth)

/-- How many reactions are left at the keypad. -/
def pending (k : Keypad) : Nat :=
  k.listeners.toList.foldr (fun l n => planWeight l.plan + n) 0

/-- Carries out a call. Each call from inside another has spent one of the
reactions that were left or that the call brought, so this depth is never
exhausted. -/
def perform (c : Call) (k : Keypad) : Keypad × Answer :=
  performWithin (k.pending + c.weight) c k

/-- Presses a key. -/
def press (k : Keypad) (key : Int) : Keypad × Answer := perform (.press key) k

/-- Releases a key. -/
def release (k : Keypad) (key : Int) : Keypad × Answer := perform (.release key) k

/-- Releases whatever key is held. -/
def releaseAll (k : Keypad) : Keypad × Answer := perform .releaseAll k

end Keypad

end ChipEight
