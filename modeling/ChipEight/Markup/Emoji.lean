import ChipEight.Markup.EmojiNames
import ChipEight.Text.Lowercase

/-!
# Emoji in a text

A name between two colons is replaced by its emoji, in upper case as well as in
lower case. A name may end in `-emoji` or `-text`; then a selector behind the emoji
asks for its colourful or its plain form. A name that nothing has stays as it is,
both its colons included, so the second one does not open another name.
-/

namespace ChipEight.Markup.Emoji

/-- The forms of emoji with their selectors. -/
def variants : List (String × Char) := [("-emoji", '\uFE0F'), ("-text", '\uFE0E')]

/-- A name without the form it asks for, and the selector of that form. -/
def splitVariant (name : List Char) : List Char × List Char :=
  match variants.find? fun v => v.1.toList.isSuffixOf name with
  | some (suffix, selector) => (name.take (name.length - suffix.length), [selector])
  | none => (name, [])

/-- What stands for a name between colons. -/
def shown (name : List Char) : List Char :=
  let (bare, selector) := splitVariant name
  match EmojiNames.lookup (Text.lowerString (String.ofList bare)) with
  | some emoji => emoji ++ selector
  | none => ':' :: name ++ [':']

/-- Whether a character may be part of a name. -/
def isNameChar (c : Char) : Bool := c != ':' && !Text.isSpace c

/-- A text with its emoji in place. -/
def replace : List Char → List Char
  | [] => []
  | ':' :: rest =>
      match _h : rest.dropWhile isNameChar with
      | ':' :: behind => shown (rest.takeWhile isNameChar) ++ replace behind
      | _ => ':' :: replace rest
  | c :: rest => c :: replace rest
termination_by cs => cs.length
decreasing_by
  · have := (List.dropWhile_suffix isNameChar (l := rest)).length_le
    simp [_h] at this ⊢
    omega
  · simp
  · simp

end ChipEight.Markup.Emoji
