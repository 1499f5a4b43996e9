import ChipEight.Markup.Emoji
import ChipEight.Markup.Style
import ChipEight.Numeral.Hex

/-!
# Markup

Text with tags in square brackets, which open and close styles. Nothing of the
styles is shown, so what is left of a text is what stands between its tags, with its
emoji in place. But tags have to match: one that closes a style by its name takes
the latest open tag of that name away, one without a name the latest of all, and
where there is none the text is no markup.

A tag begins with a lower-case letter, a hash, a slash or an at sign; other brackets
are text. A backslash in front of a tag makes text of it, and two make one backslash
in front of a tag.
-/

namespace ChipEight.Markup

/-- Why a text is no markup. Places are counted in characters from the beginning. -/
inductive Fault where
  /-- A tag closes a style that is not open. -/
  | nothingOpen (tag : String) (place : Nat)
  /-- A tag without a name closes where nothing is open. -/
  | nothingToClose (place : Nat)
  deriving DecidableEq, Repr

/-- The one sentence that says what is wrong. -/
def Fault.message : Fault → String
  | nothingOpen tag place =>
      "closing tag '[" ++ tag ++ "]' at position " ++ Numeral.decimal place
        ++ " doesn't match any open tag"
  | nothingToClose place =>
      "closing tag '[/]' at position " ++ Numeral.decimal place ++ " has nothing to close"

/-- A part of a text. -/
inductive Piece where
  | text (cs : List Char)
  /-- A tag, by what stands between its brackets, at a place. -/
  | tag (body : List Char) (place : Nat)
  deriving DecidableEq, Repr

/-- Whether a character may begin a tag. -/
def isTagStart (c : Char) : Bool :=
  ('a' ≤ c && c ≤ 'z') || c == '#' || c == '/' || c == '@'

/-- The tag in front of a text, and what is behind it. -/
def tag? : List Char → Option (List Char × List Char)
  | '[' :: c :: rest =>
      let isInside := fun x : Char => x != '[' && x != ']'
      match rest.dropWhile isInside with
      | ']' :: behind =>
          if isTagStart c then some (c :: rest.takeWhile isInside, behind) else none
      | _ => none
  | _ => none

/-- Text that was collected backwards, if there is any. -/
def collected (plain : List Char) : List Piece :=
  if plain.isEmpty then [] else [.text plain.reverse]

/-- A tag behind so many backslashes at a place. -/
def escaped (slashes : Nat) (body : List Char) (place : Nat) : List Piece :=
  (if slashes < 2 then [] else [.text (List.replicate (slashes / 2) '\\')])
    ++ [if slashes % 2 = 1 then .text ('[' :: body ++ [']'])
      else .tag body (place + slashes)]

/-- The parts of a text from a place on, behind text that was collected backwards.
Each round takes a character at least. -/
def piecesFrom : Nat → Nat → List Char → List Char → List Piece
  | 0, _, plain, _ => collected plain
  | _, _, plain, [] => collected plain
  | rounds + 1, place, plain, c :: cs =>
      let slashes := ((c :: cs).takeWhile (· == '\\')).length
      match tag? ((c :: cs).drop slashes) with
      | some (body, behind) =>
          collected plain ++ escaped slashes body place
            ++ piecesFrom rounds (place + slashes + body.length + 2) [] behind
      | none =>
          let taken := max slashes 1
          piecesFrom rounds (place + taken) (((c :: cs).take taken).reverse ++ plain)
            ((c :: cs).drop taken)

/-- The parts of a text. -/
def pieces (cs : List Char) : List Piece := piecesFrom cs.length 0 [] cs

/-- Text in which a bracket behind a backslash is a bracket alone. -/
def unescape : List Char → List Char
  | '\\' :: '[' :: rest => '[' :: unescape rest
  | c :: rest => c :: unescape rest
  | [] => []

/-- The open styles by their normal forms, the latest first, after a tag. -/
def stack (opened : List String) (body : List Char) (place : Nat) :
    Except Fault (List String) :=
  let name := body.takeWhile (· != '=')
  match name with
  | '/' :: closing =>
      if (Text.trimSpaces closing).isEmpty then
        match opened with
        | [] => .error (.nothingToClose place)
        | _ :: rest => .ok rest
      else
        let style := Style.normalize (Text.trimSpaces closing)
        if opened.contains style then .ok (opened.erase style)
        else .error (.nothingOpen (String.ofList body) place)
  | _ => .ok (Style.normalize name :: opened)

/-- What is left of parts, with styles open in front of them. -/
def shown : List String → List Piece → Except Fault (List Char)
  | _, [] => .ok []
  | opened, .text cs :: rest =>
      (shown opened rest).map (Emoji.replace (unescape cs) ++ ·)
  | opened, .tag body place :: rest => do shown (← stack opened body place) rest

/-- What is left of a text without its tags. -/
def plain (cs : List Char) : Except Fault (List Char) := shown [] (pieces cs)

end ChipEight.Markup
