/-!
# Dictionaries

Values under keys, in the order in which the keys first came up. A key that comes up again
keeps its place, and only its value is replaced.
-/

namespace ChipEight

/-- Keys with their values, first come first. -/
abbrev Dictionary (α β : Type) := List (α × β)

/-- A value stored under a key; a new key takes the last place. -/
def Dictionary.put {α β : Type} [DecidableEq α] (key : α) (value : β) :
    Dictionary α β → Dictionary α β
  | [] => [(key, value)]
  | (k, v) :: rest => if k = key then (k, value) :: rest else (k, v) :: put key value rest

end ChipEight
