/-!
# Settings on a command line

An option that sets something may be missing, may be given a value, or may be
given with the separator in the place of a value. In the last case there is
nothing that whatever uses the setting could use.
-/

namespace ChipEight.Options

/-- What a command line says about a setting. -/
inductive Setting (α : Type) where
  | unset
  /-- The option was given without a value. -/
  | hollow
  | given (a : α)
  deriving DecidableEq, Repr

namespace Setting

variable {α : Type}

/-- Reads the values an option came with. -/
def read (f : String → Except String α) : List String → Except String (Setting α)
  | [] => .ok hollow
  | v :: _ => (f v).map given

/-- Whether the option was given without a value. -/
def isHollow : Setting α → Bool
  | hollow => true
  | _ => false

/-- The value, if there is one. -/
def value? : Setting α → Option α
  | given a => some a
  | _ => none

end Setting

/-- The name an option came with; an empty one counts as none. -/
def nonempty? (values : List String) : Option String :=
  values.head?.filter fun v => !v.isEmpty

end ChipEight.Options
