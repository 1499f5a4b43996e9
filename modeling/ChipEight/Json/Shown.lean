import ChipEight.Json.Basic
import ChipEight.Text.Quoted

/-!
# Values as messages show them

A message that complains about a value shows it in full, texts in quotation
marks and doubles in plain style.
-/

namespace ChipEight.Json

mutual

/-- A value as a message shows it. -/
def shown : Json → String
  | null => "None"
  | bool true => "True"
  | bool false => "False"
  | number n => n.text .plain
  | string s => Text.quoted s
  | array items => "[" ++ String.intercalate ", " (shownItems items) ++ "]"
  | object members => "\x7b" ++ String.intercalate ", " (shownMembers members) ++ "\x7d"

/-- Items as a message shows them. -/
def shownItems : List Json → List String
  | [] => []
  | v :: rest => shown v :: shownItems rest

/-- Members as a message shows them. -/
def shownMembers : List (Text.Points × Json) → List String
  | [] => []
  | m :: rest => shownMember m :: shownMembers rest

/-- One member as a message shows it. -/
def shownMember : Text.Points × Json → String
  | (name, v) => Text.quoted name ++ ": " ++ shown v

end

end ChipEight.Json
