import ChipEight.Dictionary

/-!
# Counting by name

Counts in the order in which their names first came up.
-/

namespace ChipEight

/-- Names with their counts, first come first. -/
abbrev Tally := Dictionary String Int

namespace Tally

/-- The sum of all counts. -/
def total : Tally → Int
  | [] => 0
  | (_, c) :: rest => c + total rest

/-- The count of a name, zero where it never came up. -/
def count (t : Tally) (name : String) : Int := (t.lookup name).getD 0

/-- So many more of a name. -/
def add (name : String) (n : Int) (t : Tally) : Tally := t.put name (t.count name + n)

/-- One more of a name. -/
def bump (name : String) (t : Tally) : Tally := t.add name 1

end Tally

end ChipEight
