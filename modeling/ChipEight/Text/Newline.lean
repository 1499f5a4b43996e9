/-!
# Ends of lines

A text file may end its lines in three ways. Read as text, all three are one
line feed.
-/

namespace ChipEight.Text

/-- A text in which every end of a line is a line feed. -/
def unifyNewlines : List Char → List Char
  | [] => []
  | '\r' :: '\n' :: rest => '\n' :: unifyNewlines rest
  | '\r' :: rest => '\n' :: unifyNewlines rest
  | c :: rest => c :: unifyNewlines rest

end ChipEight.Text
