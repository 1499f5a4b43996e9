import ChipEight.Markup.Color
import ChipEight.Text.Blank
import ChipEight.Text.Lowercase

/-!
# Styles

A style is written as words: attributes, negated attributes, a colour, a colour
behind `on` for the background, an address behind `link`. Two ways to write the same
style have the same normal form, which names each part once and in a fixed order.
What is no style is its own normal form, but for blanks around it and upper case.
-/

namespace ChipEight.Markup

/-- The parts of a style that were set. -/
structure Style where
  attributes : List (String × Bool) := []
  color : Option String := none
  background : Option String := none
  link : Option String := none

namespace Style

/-- The attributes in their order. -/
def attributeNames : List String := [
  "bold", "dim", "italic", "underline", "blink", "blink2", "reverse", "conceal", "strike",
  "underline2", "frame", "encircle", "overline"]

/-- The short names of attributes. -/
def shortNames : List (String × String) := [
  ("d", "dim"), ("b", "bold"), ("i", "italic"), ("u", "underline"), ("r", "reverse"),
  ("c", "conceal"), ("s", "strike"), ("uu", "underline2"), ("o", "overline")]

/-- The attribute of a name. -/
def attribute? (name : String) : Option String :=
  if attributeNames.contains name then some name else shortNames.lookup name

/-- A style with an attribute turned on or off. -/
def set (s : Style) (name : String) (on : Bool) : Style :=
  { s with attributes := (name, on) :: s.attributes }

/-- The style that words describe on top of another. -/
def ofWords? (s : Style) : List String → Option Style
  | [] => some s
  | word :: rest =>
      let w := Text.lowerString word
      match w, rest with
      | "on", c :: rest =>
          if Color.isColor (Text.lowerString c) then
            ofWords? { s with background := some (Text.lowerString c) } rest
          else none
      | "not", a :: rest => (attribute? a).bind fun a => ofWords? (s.set a false) rest
      | "link", address :: rest => ofWords? { s with link := some address } rest
      | _, rest =>
          match attribute? w with
          | some a => ofWords? (s.set a true) rest
          | none => if Color.isColor w then ofWords? { s with color := some w } rest else none

/-- The words of a style in order. -/
def words (s : Style) : List String :=
  attributeNames.filterMap (fun a =>
    (s.attributes.lookup a).map fun on => if on then a else "not " ++ a)
    ++ s.color.toList ++ (s.background.map ("on " ++ ·)).toList
    ++ (s.link.map ("link " ++ ·)).toList

/-- The normal form of a text that may describe a style. -/
def normalize (text : List Char) : String :=
  match ofWords? {} ((Text.splitSpaces text).map String.ofList) with
  | some s => String.intercalate " " s.words
  | none => Text.lowerString (String.ofList (Text.trimSpaces text))

end Style

end ChipEight.Markup
