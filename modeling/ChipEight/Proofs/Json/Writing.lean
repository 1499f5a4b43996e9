import ChipEight.Json.Writer
import ChipEight.Proofs.Json.Members
import ChipEight.Proofs.Numeral.Parts
import Mathlib.Data.Nat.Digits.Defs

/-!
# What is written is what was meant

The writer is followed through its layout, and what it makes of a value is shown to write that
value in the sense of the grammar. No reader comes up in this: that a text that was written
is read as what it was written from follows, since the reader reads what is written.

Strings are written code point by code point. That loses something only where two halves of a
surrogate pair stand side by side that belong together, for what is written of them is written of
the character they make as well.
-/

namespace ChipEight.Json

open Text (CodePoint Points toNat_lt toNat_not_half)

/-! ## Integers -/

theorem digitsValue_toDigits (n : Nat) : digitsValue (Nat.toDigits 10 n) = n := by
  have h := Nat.ofDigitChars_toDigits (b := 10) (n := n) (by decide) (by decide)
  rw [Nat.ofDigitChars] at h
  rw [digitsValue]
  simpa only [Nat.mul_comm 10] using h

theorem digits_toDigits (n : Nat) : Digits (Nat.toDigits 10 n) := by
  intro c hc
  have h := Nat.isDigit_of_mem_toDigits (by decide) (by decide) hc
  simpa [isDigit, Char.isDigit, Char.le_def] using h

theorem digitChar_cases :
    ∀ d < 10, isDigit (Nat.digitChar d) = true ∧ (0 < d → Nat.digitChar d ≠ '0') := by decide

/-- Only zero has a zero for its first digit. -/
theorem toDigits_first {n : Nat} (hn : 0 < n) :
    ∃ d ds, Nat.toDigits 10 n = d :: ds ∧ isDigit d = true ∧ d ≠ '0' ∧ Digits ds := by
  induction n using Nat.base_induction 10 (by decide) with
  | single d hd =>
      rw [Nat.toDigits_of_lt_base hd]
      exact ⟨_, [], rfl, (digitChar_cases d hd).1, (digitChar_cases d hd).2 hn, nofun⟩
  | digit n d hd hpos ih =>
      obtain ⟨e, es, he, hdigit, hzero, hes⟩ := ih hpos
      rw [← Nat.toDigits_append_toDigits (by decide) hpos hd, he, Nat.toDigits_of_lt_base hd]
      refine ⟨e, es ++ [d.digitChar], rfl, hdigit, hzero, List.forall_mem_append.2 ⟨hes, ?_⟩⟩
      exact List.forall_mem_singleton.2 (digitChar_cases d hd).1

/-- An integer as a number that is written. -/
def integerLiteral (n : Int) : Literal := ⟨decide (n < 0), Nat.toDigits 10 n.natAbs, [], none⟩

theorem wellFormed_integerLiteral (n : Int) : (integerLiteral n).WellFormed where
  whole := by
    rcases Nat.eq_zero_or_pos n.natAbs with h | h
    · rw [integerLiteral, h]
      exact .inl rfl
    · exact .inr (toDigits_first h)
  decimals := nofun
  exponent := nofun

theorem toList_decimal (n : Int) : (Numeral.decimal n).toList = (integerLiteral n).text := by
  rw [Numeral.decimal, Numeral.signed, Literal.text, Literal.sign, integerLiteral]
  by_cases h : n < 0
  · simp [h, Literal.fraction]
  · simp [h, Literal.fraction]

theorem isTooLong_eq_false_iff {n : Int} : isTooLong n = false ↔ n.natAbs < 10 ^ maxDigits := by
  rw [isTooLong, decide_eq_false_iff_not, Nat.not_le, Numeral.tenPow, Nat.pow_eq]

theorem number_integerLiteral {n : Int} (h : isTooLong n = false) :
    (integerLiteral n).number = .ok (.whole n) := by
  have hlen : ¬maxDigits < (Nat.toDigits 10 n.natAbs).length := by
    rw [Nat.not_lt, Nat.length_toDigits_le_iff (by decide) (by decide)]
    exact isTooLong_eq_false_iff.1 h
  rw [Literal.number, integerLiteral]
  show (if _ then _ else _) = _
  rw [if_neg hlen, digitsValue_toDigits]
  refine congrArg (fun k => Except.ok (Number.whole k)) ?_
  by_cases hneg : n < 0
  · rw [if_pos (decide_eq_true hneg)]
    omega
  · rw [if_neg (by simpa using hneg)]
    omega

theorem scalar_integer {n : Int} (h : isTooLong n = false) :
    Scalar (Numeral.decimal n).toList (.number (.whole n)) := by
  rw [toList_decimal]
  exact .number (wellFormed_integerLiteral n) (number_integerLiteral h)

/-! ## Strings -/

theorem hexValue?_digitChar : ∀ d < 16, Numeral.hexValue? (Nat.digitChar d) = some d := by decide

theorem toList_lowHex (k n : Nat) :
    (Text.lowHex k n).toList =
      List.replicate (k - (Nat.toDigits 16 n).length) '0' ++ Nat.toDigits 16 n := by
  simp only [Text.lowHex, Text.padLeft, Text.filler, String.toList_append, String.toList_ofList,
    String.length_ofList]

/-- The last of several places. -/
theorem toList_lowHex_succ {k : Nat} (hk : 0 < k) (n : Nat) :
    (Text.lowHex (k + 1) n).toList =
      (Text.lowHex k (n / 16)).toList ++ [Nat.digitChar (n % 16)] := by
  rw [toList_lowHex, toList_lowHex]
  by_cases hn : n < 16
  · rw [Nat.toDigits_of_lt_base hn, Nat.div_eq_of_lt hn, Nat.mod_eq_of_lt hn, Nat.toDigits_zero]
    obtain ⟨k, rfl⟩ : ∃ j, k = j + 1 := ⟨k - 1, by omega⟩
    simp [List.replicate_succ']
  · rw [Nat.toDigits_eq_if (by decide), if_neg hn, List.length_append, List.length_singleton,
      Nat.add_sub_add_right, List.append_assoc]

/-- Four places hold sixteen bits. -/
theorem toList_lowHex_four {n : Nat} (h : n < 0x10000) :
    (Text.lowHex 4 n).toList = [Nat.digitChar (n / 4096), Nat.digitChar (n / 256 % 16),
      Nat.digitChar (n / 16 % 16), Nat.digitChar (n % 16)] := by
  rw [toList_lowHex_succ (by decide), toList_lowHex_succ (by decide),
    toList_lowHex_succ (by decide), toList_lowHex, Nat.toDigits_of_lt_base (by omega)]
  simp [Nat.div_div_eq_div_mul]

theorem escapes_unitEscape {n : Nat} (h : n < 0x10000) : Escapes (unitEscape n) n := by
  refine ⟨_, _, _, _, congrArg ('\\' :: 'u' :: ·) (toList_lowHex_four h), ?_⟩
  simp only [hexUnit?, hexValue?_digitChar _ (show n / 4096 < 16 by omega),
    hexValue?_digitChar _ (show n / 256 % 16 < 16 by omega),
    hexValue?_digitChar _ (show n / 16 % 16 < 16 by omega),
    hexValue?_digitChar _ (show n % 16 < 16 by omega)]
  exact congrArg some (by omega)

theorem unescape?_of_shortEscape? {c e : Char} (h : shortEscape? c = some e) :
    unescape? e = some c := by
  unfold shortEscape? at h
  repeat' split at h
  all_goals first
    | subst c; cases h; decide
    | cases h

/-- A character past the first plane is the pair of its halves. -/
theorem quotes_pair {w : List Char} {s : Points} {c : Char} (hc : 0x10000 ≤ c.toNat)
    (h : Quotes w s) :
    Quotes (unitEscape (0xD800 + (c.toNat - 0x10000) / 0x400) ++
      (unitEscape (0xDC00 + (c.toNat - 0x10000) % 0x400) ++ w)) (.char c :: s) := by
  have hlt := toNat_lt c
  have hhigh : IsHighHalf (0xD800 + (c.toNat - 0x10000) / 0x400) := by
    rw [IsHighHalf]
    omega
  have hlow : IsLowHalf (0xDC00 + (c.toNat - 0x10000) % 0x400) := by
    rw [IsLowHalf]
    omega
  refine .pair (escapes_unitEscape (by omega)) hhigh (escapes_unitEscape (by omega)) hlow ?_ h
  simp only [CodePoint.code]
  omega

/-- A character between the marks of a string is written as itself or as an escape. -/
theorem quotes_charText {w : List Char} {s : Points} (c : Char) (h : Quotes w s) :
    Quotes (charText c ++ w) (.char c :: s) := by
  unfold charText
  split
  · next letter hletter => exact .letter (unescape?_of_shortEscape? hletter) h
  · next hnone =>
      split
      · next hprint =>
          refine .plain ?_ ?_ hprint.1 h <;> rintro rfl <;> exact absurd hnone (by decide)
      · unfold codeEscape
        split
        · next hunit =>
            -- One escape could only be taken for half of a pair, and no character is a half.
            refine .unit (escapes_unitEscape hunit) (fun ⟨hhigh, _⟩ => ?_) h
            exact toNat_not_half c ⟨hhigh.1, Nat.le_trans hhigh.2 (by omega)⟩
        · next hpair =>
            rw [List.append_assoc]
            exact quotes_pair (by omega) h

theorem code_half_lt (place : Fin 0x800) : (CodePoint.half place).code < 0x10000 := by
  simp only [CodePoint.code]
  omega

theorem pointText_half (place : Fin 0x800) :
    pointText (.half place) = unitEscape (CodePoint.half place).code := by
  rw [pointText, codeEscape, if_pos (code_half_lt place)]

/-- A half is written as the half it is, unless what is written behind it would make a pair of
it. -/
theorem quotes_pointText {w : List Char} {s : Points} {p : CodePoint}
    (halone : ¬(IsHighHalf p.code ∧ BeginsLow w)) (h : Quotes w s) :
    Quotes (pointText p ++ w) (p :: s) := by
  cases p with
  | char c => exact quotes_charText c h
  | half place =>
      rw [pointText_half]
      exact .unit (escapes_unitEscape (code_half_lt place)) halone h

theorem Escapes.eq_of_append {x y w w' : List Char} {u v : Nat} (hx : Escapes x u)
    (hy : Escapes y v) (h : x ++ w = y ++ w') : u = v := by
  obtain ⟨a, b, c, d, rfl, hu⟩ := hx
  obtain ⟨a', b', c', d', rfl, hv⟩ := hy
  cases h
  exact Option.some.inj (hu.symm.trans hv)

/-- Only what is written of a second half begins with one. -/
theorem isLowHalf_of_beginsLow {w : List Char} {p : CodePoint}
    (h : BeginsLow (pointText p ++ w)) : IsLowHalf p.code := by
  obtain ⟨y, low, rest, heq, hy, hlow⟩ := h
  have hunit {n : Nat} {w : List Char} (hn : n < 0x10000)
      (heq : unitEscape n ++ w = y ++ rest) : IsLowHalf n :=
    (escapes_unitEscape hn).eq_of_append hy heq ▸ hlow
  have hslash : ∃ t, y = '\\' :: 'u' :: t := by
    obtain ⟨a, b, c, d, rfl, -⟩ := hy
    exact ⟨_, rfl⟩
  obtain ⟨t, ht⟩ := hslash
  cases p with
  | half place =>
      rw [pointText_half] at heq
      exact hunit (code_half_lt place) heq
  | char c =>
      have hlt := toNat_lt c
      rw [pointText, charText] at heq
      split at heq
      · next letter hletter =>
          rw [ht] at heq
          cases heq
          exact nomatch not_unescape?_u.symm.trans (unescape?_of_shortEscape? hletter)
      · next hnone =>
          split at heq
          · rw [ht] at heq
            cases heq
            exact absurd hnone (by decide)
          · rw [codeEscape] at heq
            split at heq
            · next hn => exact hunit hn heq
            · rw [List.append_assoc] at heq
              have hfirst := (hunit (by omega) heq).1
              omega

/-- No first half of a surrogate pair stands in front of a second one. -/
def HalvesApart (s : Points) : Prop :=
  s.IsChain fun p q => ¬(IsHighHalf p.code ∧ IsLowHalf q.code)

theorem halvesApart_points (s : String) : HalvesApart (Text.points s) := by
  refine List.Pairwise.isChain (List.pairwise_map.2 (List.pairwise_of_forall fun c d h => ?_))
  exact toNat_not_half c ⟨h.1.1, Nat.le_trans h.1.2 (by decide)⟩

theorem not_beginsLow_nil : ¬BeginsLow [] := by
  rintro ⟨_, low, rest, heq, ⟨a, b, c, d, rfl, -⟩, -⟩
  cases heq

theorem quotes_text {s : Points} (hs : HalvesApart s) : Quotes (s.flatMap pointText) s := by
  induction s with
  | nil => exact .nil
  | cons p s ih =>
      cases s with
      | nil => exact quotes_pointText (fun h => not_beginsLow_nil h.2) .nil
      | cons q s =>
          obtain ⟨hfirst, hrest⟩ := List.isChain_cons_cons.1 hs
          exact quotes_pointText (fun h => hfirst ⟨h.1, isLowHalf_of_beginsLow h.2⟩) (ih hrest)

theorem scalar_string {s : Points} (hs : HalvesApart s) : Scalar (stringText s) (.string s) :=
  .string (quotes_text hs)

/-! ## Numbers -/

/-- The text of the number is the number in the sense of the grammar. -/
def ReadsBack (n : Number) : Prop :=
  ∃ x, Padded (n.text realStyle).toList x ∧ Scalar x (.number n)

theorem readsBack_whole {n : Int} (h : isTooLong n = false) : ReadsBack (.whole n) :=
  ⟨_, padded_self _, scalar_integer h⟩

theorem readsBack_nan {x : Float} (h : Numeral.Binary64.parts x = .nan) :
    ReadsBack (.real x) := by
  refine ⟨['N', 'a', 'N'], ?_, Numeral.Binary64.eq_nan_of_parts h ▸ .nan⟩
  rw [Number.text, Numeral.RealStyle.text, h]
  exact padded_self _

theorem readsBack_infinite {x : Float} {negative : Bool}
    (h : Numeral.Binary64.parts x = .infinite negative) : ReadsBack (.real x) := by
  have hx := Numeral.Binary64.eq_infinity_of_parts h
  rw [ReadsBack, Number.text, Numeral.RealStyle.text, h, hx]
  cases negative with
  | false => exact ⟨_, padded_self _, .infinity⟩
  | true => exact ⟨_, padded_self _, .negInfinity⟩

/-- A number that is read where it stands alone is read anywhere. -/
theorem readsBack_of_parse {room : Nat} {n : Number}
    (h : parse room (n.text realStyle) = .ok (.number n)) : ReadsBack n := by
  -- The text is all that was parsed, so what it writes is the number and not a part of one.
  obtain ⟨x, hpadded, hx⟩ := denotes_of_parse h
  cases hx with
  | scalar hv => exact ⟨x, hpadded, hv⟩

/-! ## Values -/

/-- The text writes the value, with blanks around it. -/
def Shows (room : Nat) (w : List Char) (v : Json) : Prop := ∃ x, Padded w x ∧ Writes room x v

/-- A value that can be read back where there is room for so many containers inside each
other. -/
inductive Readable : Nat → Json → Prop where
  | null {room : Nat} : Readable room .null
  | bool {room : Nat} (b : Bool) : Readable room (.bool b)
  | number {room : Nat} {n : Number} (hn : ReadsBack n) : Readable room (.number n)
  | string {room : Nat} {s : Points} (hs : HalvesApart s) : Readable room (.string s)
  | array {room : Nat} {vs : List Json} (hvs : ∀ v ∈ vs, Readable room v) :
      Readable (room + 1) (.array vs)
  | object {room : Nat} {ms : Members} (hnames : (ms.map Prod.fst).Nodup)
      (hhalves : ∀ m ∈ ms, HalvesApart m.1) (hms : ∀ m ∈ ms, Readable room m.2) :
      Readable (room + 1) (.object ms)

theorem blank_break (l : Layout) (depth : Nat) : Blank (l.break depth) := by
  cases l with
  | none => exact blank_nil
  | some width =>
      intro c hc
      rcases List.mem_cons.1 hc with rfl | hc
      · decide
      · rw [List.eq_of_mem_replicate hc]
        decide

theorem named_memberText (l : Layout) {name : Points} (hname : HalvesApart name)
    {w x : List Char} (h : Padded w x) :
    Named (stringText name ++ l.colon ++ w) name x := by
  have hcolon : ∃ b, Blank b ∧ l.colon = ':' :: b := by
    cases l with
    | none => exact ⟨[], blank_nil, rfl⟩
    | some _ => exact ⟨[' '], List.forall_mem_singleton.2 rfl, rfl⟩
  obtain ⟨b, hb, hcolon⟩ := hcolon
  refine ⟨[], _, [], b ++ w, blank_nil, quotes_text hname, blank_nil, h.blank_append hb, ?_⟩
  simp [stringText, hcolon]

section Intercalate

/-- Texts between commas, from the last to the first. -/
theorem intercalate_induction {β : Type} {P : List Char → List β → Prop} {Q : β → Prop}
    {t : β → List Char} (tail : List Char) (one : ∀ {b}, Q b → P (t b ++ tail) [b])
    (more : ∀ {b w bs}, Q b → P w bs → P (t b ++ ',' :: w) (b :: bs)) {b : β} {bs : List β}
    (h : ∀ c ∈ b :: bs, Q c) :
    P (List.intercalate [','] ((b :: bs).map t) ++ tail) (b :: bs) := by
  induction bs generalizing b with
  | nil => simpa [List.intercalate] using one (h b List.mem_cons_self)
  | cons c bs ih =>
      have hrest := more (h b List.mem_cons_self) (ih fun d hd => h d (List.mem_cons_of_mem b hd))
      simpa [List.intercalate] using hrest

variable {room : Nat} {brk tail : List Char}

theorem writesItems_intercalate (hbrk : Blank brk) (htail : Blank tail) {v : Json}
    {vs : List Json} {t : Json → List Char} (h : ∀ u ∈ v :: vs, Shows room (t u) u) :
    WritesItems room
      (List.intercalate [','] ((v :: vs).map fun u => brk ++ t u) ++ tail) (v :: vs) := by
  refine intercalate_induction tail ?_ ?_ h
  · rintro u ⟨x, hpadded, hx⟩
    exact .one ((hpadded.blank_append hbrk).append_blank htail) hx
  · rintro u w us ⟨x, hpadded, hx⟩ hus
    exact .more (hpadded.blank_append hbrk) hx hus

theorem writesMembers_intercalate (hbrk : Blank brk) (htail : Blank tail) {m : Points × Json}
    {ms : Members} {t : Points × Json → List Char}
    (h : ∀ u ∈ m :: ms, ∃ x, Named (t u) u.1 x ∧ Writes room x u.2) :
    WritesMembers room
      (List.intercalate [','] ((m :: ms).map fun u => brk ++ t u) ++ tail) (m :: ms) := by
  refine intercalate_induction tail ?_ ?_ h
  · rintro u ⟨x, hnamed, hx⟩
    exact .one ((hnamed.blank_append hbrk).append_blank htail) hx
  · rintro u w us ⟨x, hnamed, hx⟩ hus
    exact .more (hnamed.blank_append hbrk) hx hus

end Intercalate

theorem itemTexts_eq_map (l : Layout) (depth : Nat) (vs : List Json) :
    itemTexts l depth vs = vs.map (valueText l depth) := by
  induction vs with
  | nil => rw [itemTexts, List.map_nil]
  | cons v vs ih => rw [itemTexts, ih, List.map_cons]

theorem memberTexts_eq_map (l : Layout) (depth : Nat) (ms : Members) :
    memberTexts l depth ms = ms.map (memberText l depth) := by
  induction ms with
  | nil => rw [memberTexts, List.map_nil]
  | cons m ms ih => rw [memberTexts, ih, List.map_cons]

/-- What is written of a value writes it, at every depth and in every layout. -/
theorem Readable.shows {room : Nat} {v : Json} (h : Readable room v) (l : Layout) (depth : Nat) :
    Shows room (valueText l depth v) v := by
  induction h generalizing depth with
  | null =>
      rw [valueText]
      exact ⟨_, padded_self _, .scalar .null⟩
  | bool b =>
      cases b <;> rw [valueText]
      · exact ⟨_, padded_self _, .scalar .false⟩
      · exact ⟨_, padded_self _, .scalar .true⟩
  | number hn =>
      obtain ⟨x, hpadded, hx⟩ := hn
      rw [valueText]
      exact ⟨x, hpadded, .scalar hx⟩
  | string hs =>
      rw [valueText]
      exact ⟨_, padded_self _, .scalar (scalar_string hs)⟩
  | @array room vs hvs ih =>
      rw [valueText, itemTexts_eq_map, Layout.enclose]
      refine ⟨_, padded_self _, ?_⟩
      cases vs with
      | nil => exact .emptyArray blank_nil
      | cons v vs =>
          have hitems := writesItems_intercalate (blank_break l (depth + 1)) (blank_break l depth)
            (t := valueText l (depth + 1)) fun u hu => ih u hu (depth + 1)
          simpa [Function.comp_def] using Writes.array hitems
  | @object room ms hnames hhalves hms ih =>
      rw [valueText, memberTexts_eq_map, Layout.enclose]
      refine ⟨_, padded_self _, ?_⟩
      cases ms with
      | nil => exact .emptyObject blank_nil
      | cons m ms =>
          have hmembers := writesMembers_intercalate (blank_break l (depth + 1))
            (blank_break l depth) (t := memberText l (depth + 1))
            fun u (hu : u ∈ m :: ms) => by
              obtain ⟨x, hpadded, hx⟩ := ih u hu (depth + 1)
              exact ⟨x, by rw [memberText]; exact named_memberText l (hhalves u hu) hpadded, hx⟩
          have hobject := Writes.object hmembers
          rw [Members.collect_of_nodup hnames] at hobject
          simpa [Function.comp_def] using hobject

/-- A value that is written is read as itself. -/
theorem parse_render {room : Nat} {v : Json} (h : Readable room v) (l : Layout) :
    parse room (render l v) = .ok v := by
  refine parse_of_denotes ?_
  obtain ⟨x, hpadded, hx⟩ := h.shows l 0
  exact ⟨x, by rwa [render, String.toList_ofList], hx⟩

/-! ## Values that are written in full -/

theorem cutMembers?_eq_none_iff {l : Layout} {depth : Nat} {ms : Members} :
    cutMembers? l depth ms = none ↔ ∀ m ∈ ms, cutValue? l depth m.2 = none := by
  induction ms with
  | nil => simp [cutMembers?]
  | cons m ms ih =>
      obtain ⟨name, v⟩ := m
      rw [cutMembers?, Option.map_eq_none_iff, Option.or_eq_none_iff, Option.map_eq_none_iff, ih,
        cutMember?, Option.map_eq_none_iff, List.forall_mem_cons]

theorem cutValue?_object_eq_none_iff {l : Layout} {depth : Nat} {ms : Members} :
    cutValue? l depth (.object ms) = none ↔ ∀ m ∈ ms, cutValue? l (depth + 1) m.2 = none := by
  rw [cutValue?, Option.map_eq_none_iff, cutMembers?_eq_none_iff]

theorem cutValue?_whole_eq_none_iff {l : Layout} {depth : Nat} {n : Int} :
    cutValue? l depth (.number (.whole n)) = none ↔ n.natAbs < 10 ^ maxDigits := by
  rw [cutValue?, ← isTooLong_eq_false_iff]
  cases isTooLong n <;> simp

end ChipEight.Json
