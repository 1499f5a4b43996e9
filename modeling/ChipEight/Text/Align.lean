/-!
# Columns of text

A column is filled on one side to a width that counts characters. Text that is
already as wide as its column, or wider, is left alone.
-/

namespace ChipEight.Text

/-- As many copies of `c` as `s` is short of `width`. -/
def filler (c : Char) (width : Nat) (s : String) : String :=
  String.ofList (List.replicate (width - s.length) c)

/-- Right-justified text: the filling stands in front. -/
def padLeft (width : Nat) (s : String) (c : Char := ' ') : String :=
  filler c width s ++ s

/-- Left-justified text: the filling stands behind. -/
def padRight (width : Nat) (s : String) (c : Char := ' ') : String :=
  s ++ filler c width s

end ChipEight.Text
