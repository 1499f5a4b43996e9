import ChipEight.Json.Reader

/-!
# What a text writes

The grammar of JSON as a relation between characters and values. It says nothing about
how a text is read: there is no place in the text and no rest of it, only what the parts of
a text write and how they are put together. What the relation leaves to functions of the
reader is what a single token stands for: the sixteen bits of an escape, the letters behind
a backslash, and the number that digits make.

Lists and objects may be nested no deeper than there is room for, which the relation
counts down. An escape writes the code point of its code, be it a character or half of a
surrogate pair; a first half is a half alone exactly where no second half follows it.
-/

namespace ChipEight.Json

open Text (CodePoint Points)

/-! ## Strings -/

/-- The sixteen bits are the first half of a surrogate pair. -/
def IsHighHalf (u : Nat) : Prop := 0xD800 ≤ u ∧ u ≤ 0xDBFF

/-- The sixteen bits are the second half of a surrogate pair. -/
def IsLowHalf (u : Nat) : Prop := 0xDC00 ≤ u ∧ u ≤ 0xDFFF

/-- An escape of sixteen bits. -/
def Escapes (w : List Char) (u : Nat) : Prop :=
  ∃ a b c d, w = ['\\', 'u', a, b, c, d] ∧ hexUnit? [a, b, c, d] = some u

/-- A text that begins with the second half of a surrogate pair. -/
def BeginsLow (cs : List Char) : Prop :=
  ∃ w low rest, cs = w ++ rest ∧ Escapes w low ∧ IsLowHalf low

/-- How the code points of a string are written between its marks. -/
inductive Quotes : List Char → Points → Prop where
  | nil : Quotes [] []
  | plain {c : Char} {w : List Char} {s : Points} (hmark : c ≠ '"') (hslash : c ≠ '\\')
      (hcode : 0x20 ≤ c.toNat) (hs : Quotes w s) : Quotes (c :: w) (.char c :: s)
  | letter {e c : Char} {w : List Char} {s : Points} (he : unescape? e = some c)
      (hs : Quotes w s) : Quotes ('\\' :: e :: w) (.char c :: s)
  | pair {x y w : List Char} {s : Points} {high low : Nat} {p : CodePoint}
      (hx : Escapes x high) (hhigh : IsHighHalf high) (hy : Escapes y low)
      (hlow : IsLowHalf low) (hp : p.code = 0x10000 + (high - 0xD800) * 0x400 + (low - 0xDC00))
      (hs : Quotes w s) : Quotes (x ++ (y ++ w)) (p :: s)
  | unit {x w : List Char} {s : Points} {p : CodePoint} (hx : Escapes x p.code)
      (halone : ¬(IsHighHalf p.code ∧ BeginsLow w)) (hs : Quotes w s) :
      Quotes (x ++ w) (p :: s)

/-! ## Numbers -/

/-- Digits and nothing else. -/
def Digits (cs : List Char) : Prop := ∀ c ∈ cs, isDigit c = true

/-- An exponent as it is written. -/
structure Exponent where
  letter : Char
  sign : List Char
  digits : List Char

namespace Exponent

def text (e : Exponent) : List Char := e.letter :: (e.sign ++ e.digits)

def value (e : Exponent) : Int :=
  if e.sign = ['-'] then -(digitsValue e.digits : Int) else digitsValue e.digits

structure WellFormed (e : Exponent) : Prop where
  letter : e.letter = 'e' ∨ e.letter = 'E'
  sign : e.sign = [] ∨ e.sign = ['+'] ∨ e.sign = ['-']
  digits : Digits e.digits
  some_digit : e.digits ≠ []

end Exponent

/-- A number as it is written. -/
structure Literal where
  negative : Bool
  whole : List Char
  decimals : List Char
  exponent : Option Exponent

namespace Literal

def sign (l : Literal) : List Char := if l.negative then ['-'] else []

/-- The decimals with the point in front of them, where there are any. -/
def fraction (l : Literal) : List Char := if l.decimals = [] then [] else '.' :: l.decimals

def text (l : Literal) : List Char :=
  l.sign ++ (l.whole ++ (l.fraction ++ (l.exponent.map Exponent.text).getD []))

/-- The number, unless it is an integer of too many digits. -/
def number (l : Literal) : Except Failure Number :=
  makeNumber l.negative l.whole l.decimals (l.exponent.map Exponent.value)

/-- No zero stands in front of other whole digits. -/
structure WellFormed (l : Literal) : Prop where
  whole : l.whole = ['0'] ∨
    ∃ d ds, l.whole = d :: ds ∧ isDigit d = true ∧ d ≠ '0' ∧ Digits ds
  decimals : Digits l.decimals
  exponent : ∀ e ∈ l.exponent, e.WellFormed

end Literal

/-! ## Values -/

/-- Blanks and nothing else. -/
def Blank (cs : List Char) : Prop := ∀ c ∈ cs, isBlank c = true

/-- How a value is written that is no list and no object. -/
inductive Scalar : List Char → Json → Prop where
  | null : Scalar ['n', 'u', 'l', 'l'] .null
  | true : Scalar ['t', 'r', 'u', 'e'] (.bool true)
  | false : Scalar ['f', 'a', 'l', 's', 'e'] (.bool false)
  | nan : Scalar ['N', 'a', 'N'] (.number (.real Numeral.Binary64.nan))
  | infinity : Scalar ['I', 'n', 'f', 'i', 'n', 'i', 't', 'y']
      (.number (.real (Numeral.Binary64.infinity false)))
  | negInfinity : Scalar ['-', 'I', 'n', 'f', 'i', 'n', 'i', 't', 'y']
      (.number (.real (Numeral.Binary64.infinity true)))
  | number {l : Literal} {n : Number} (hl : l.WellFormed) (hn : l.number = .ok n) :
      Scalar l.text (.number n)
  | string {w : List Char} {s : Points} (hs : Quotes w s) :
      Scalar ('"' :: (w ++ ['"'])) (.string s)

/-- A text with blanks around it. -/
def Padded (w x : List Char) : Prop := ∃ a b, Blank a ∧ Blank b ∧ w = a ++ (x ++ b)

/-- The text of a value with its name in front of it. -/
def Named (w : List Char) (name : Points) (x : List Char) : Prop :=
  ∃ a q b y, Blank a ∧ Quotes q name ∧ Blank b ∧ Padded y x ∧
    w = a ++ '"' :: (q ++ '"' :: (b ++ ':' :: y))

mutual

/-- How a value is written where there is room for so many containers inside each other. -/
inductive Writes : Nat → List Char → Json → Prop where
  | scalar {room : Nat} {w : List Char} {v : Json} (hv : Scalar w v) : Writes room w v
  | emptyArray {room : Nat} {b : List Char} (hb : Blank b) :
      Writes (room + 1) ('[' :: (b ++ [']'])) (.array [])
  | array {room : Nat} {w : List Char} {vs : List Json} (hvs : WritesItems room w vs) :
      Writes (room + 1) ('[' :: (w ++ [']'])) (.array vs)
  | emptyObject {room : Nat} {b : List Char} (hb : Blank b) :
      Writes (room + 1) ('{' :: (b ++ ['}'])) (.object [])
  | object {room : Nat} {w : List Char} {ms : Members} (hms : WritesMembers room w ms) :
      Writes (room + 1) ('{' :: (w ++ ['}'])) (.object (Members.collect ms))

/-- How the items of a list are written between its brackets. -/
inductive WritesItems : Nat → List Char → List Json → Prop where
  | one {room : Nat} {w x : List Char} {v : Json} (hw : Padded w x) (hv : Writes room x v) :
      WritesItems room w [v]
  | more {room : Nat} {w x rest : List Char} {v : Json} {vs : List Json} (hw : Padded w x)
      (hv : Writes room x v) (hvs : WritesItems room rest vs) :
      WritesItems room (w ++ ',' :: rest) (v :: vs)

/-- How the members of an object are written between its braces. -/
inductive WritesMembers : Nat → List Char → Members → Prop where
  | one {room : Nat} {w x : List Char} {name : Points} {v : Json} (hw : Named w name x)
      (hv : Writes room x v) : WritesMembers room w [(name, v)]
  | more {room : Nat} {w x rest : List Char} {name : Points} {v : Json} {ms : Members}
      (hw : Named w name x) (hv : Writes room x v) (hms : WritesMembers room rest ms) :
      WritesMembers room (w ++ ',' :: rest) ((name, v) :: ms)

end

/-- The text writes the value, where there is room for so many containers inside each other. -/
def Denotes (room : Nat) (text : String) (v : Json) : Prop :=
  ∃ x, Padded text.toList x ∧ Writes room x v

/-! ## Putting texts together -/

theorem blank_nil : Blank [] := fun _ h => nomatch h

theorem Blank.append {a b : List Char} (ha : Blank a) (hb : Blank b) : Blank (a ++ b) := by
  intro c hc
  rcases List.mem_append.1 hc with h | h
  · exact ha c h
  · exact hb c h

theorem padded_self (x : List Char) : Padded x x :=
  ⟨[], [], blank_nil, blank_nil, (List.append_nil x).symm⟩

theorem Padded.blank_append {b w x : List Char} (hb : Blank b) (h : Padded w x) :
    Padded (b ++ w) x := by
  obtain ⟨a, c, ha, hc, rfl⟩ := h
  exact ⟨b ++ a, c, hb.append ha, hc, (List.append_assoc ..).symm⟩

theorem Padded.append_blank {b w x : List Char} (h : Padded w x) (hb : Blank b) :
    Padded (w ++ b) x := by
  obtain ⟨a, c, ha, hc, rfl⟩ := h
  exact ⟨a, c ++ b, ha, hc.append hb, by simp only [List.append_assoc]⟩

theorem Padded.length_le {w x : List Char} (h : Padded w x) : x.length ≤ w.length := by
  obtain ⟨a, b, -, -, rfl⟩ := h
  simp only [List.length_append]
  omega

theorem Named.blank_append {b w x : List Char} {name : Points} (hb : Blank b)
    (h : Named w name x) : Named (b ++ w) name x := by
  obtain ⟨a, q, c, y, ha, hq, hc, hy, rfl⟩ := h
  exact ⟨b ++ a, q, c, y, hb.append ha, hq, hc, hy, (List.append_assoc ..).symm⟩

theorem Named.append_blank {b w x : List Char} {name : Points} (h : Named w name x)
    (hb : Blank b) : Named (w ++ b) name x := by
  obtain ⟨a, q, c, y, ha, hq, hc, hy, rfl⟩ := h
  exact ⟨a, q, c, y ++ b, ha, hq, hc, hy.append_blank hb, by simp⟩

theorem Named.length_lt {w x : List Char} {name : Points} (h : Named w name x) :
    x.length < w.length := by
  obtain ⟨a, q, b, y, -, -, -, hy, rfl⟩ := h
  have := hy.length_le
  simp only [List.length_append, List.length_cons]
  omega

theorem WritesItems.blank_append {room : Nat} {b w : List Char} {vs : List Json} (hb : Blank b)
    (h : WritesItems room w vs) : WritesItems room (b ++ w) vs := by
  cases h with
  | one hw hv => exact .one (hw.blank_append hb) hv
  | more hw hv hvs =>
      rw [← List.append_assoc]
      exact .more (hw.blank_append hb) hv hvs

theorem WritesMembers.blank_append {room : Nat} {b w : List Char} {ms : Members} (hb : Blank b)
    (h : WritesMembers room w ms) : WritesMembers room (b ++ w) ms := by
  cases h with
  | one hw hv => exact .one (hw.blank_append hb) hv
  | more hw hv hms =>
      rw [← List.append_assoc]
      exact .more (hw.blank_append hb) hv hms

/-! ## How texts begin -/

/-- A character that a value or a name may begin with. -/
def Opens (c : Char) : Prop := isBlank c = false ∧ c ≠ ']' ∧ c ≠ '}' ∧ c ≠ '\uFEFF'

instance (c : Char) : Decidable (Opens c) := inferInstanceAs (Decidable (_ ∧ _))

theorem toNat_of_isDigit {c : Char} (h : isDigit c = true) : 48 ≤ c.toNat ∧ c.toNat ≤ 57 := by
  simp only [isDigit, Bool.and_eq_true, decide_eq_true_eq] at h
  exact ⟨Char.le_def.1 h.1, Char.le_def.1 h.2⟩

/-- A digit is one of ten characters. -/
theorem isDigit_induction {p : Char → Prop} (h : ∀ n < 10, p (Char.ofNat (48 + n))) {c : Char}
    (hc : isDigit c = true) : p c := by
  have hrange := toNat_of_isDigit hc
  have := h (c.toNat - 48) (by omega)
  rwa [show 48 + (c.toNat - 48) = c.toNat by omega, Char.ofNat_toNat] at this

theorem Literal.WellFormed.exists_whole {l : Literal} (h : l.WellFormed) :
    ∃ d ds, l.whole = d :: ds ∧ isDigit d = true ∧ Digits ds := by
  rcases h.whole with hzero | ⟨d, ds, hwhole, hd, -, hds⟩
  · exact ⟨'0', [], hzero, by decide, fun _ h => nomatch h⟩
  · exact ⟨d, ds, hwhole, hd, hds⟩

theorem Scalar.exists_cons {w : List Char} {v : Json} (h : Scalar w v) :
    ∃ c t, w = c :: t ∧ Opens c ∧ c ≠ '[' ∧ c ≠ '{' := by
  cases h with
  | number hl hn =>
      obtain ⟨d, ds, hwhole, hd, -⟩ := hl.exists_whole
      rename_i l _
      cases hneg : l.negative with
      | true => exact ⟨'-', _, by rw [Literal.text, Literal.sign, hneg]; rfl, by decide⟩
      | false =>
          refine ⟨d, _, by rw [Literal.text, Literal.sign, hneg, hwhole]; rfl, ?_⟩
          exact isDigit_induction (p := fun c => Opens c ∧ c ≠ '[' ∧ c ≠ '{') (by decide) hd
  | _ => exact ⟨_, _, rfl, by decide⟩

theorem Writes.exists_cons {room : Nat} {w : List Char} {v : Json} (h : Writes room w v) :
    ∃ c t, w = c :: t ∧ Opens c := by
  cases h with
  | scalar hv =>
      obtain ⟨c, t, hw, hc, -⟩ := hv.exists_cons
      exact ⟨c, t, hw, hc⟩
  | _ => exact ⟨_, _, rfl, by decide⟩

end ChipEight.Json
