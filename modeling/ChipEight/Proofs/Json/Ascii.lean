import ChipEight.Proofs.Json.Writing
import ChipEight.Proofs.Text.Utf8

/-!
# What is written is ASCII

The writer escapes whatever is not printable ASCII, and what it adds of its own are marks,
digits, letters, blanks and line feeds. A file with such a text holds a byte for each character,
and reading it changes no end of a line.
-/

namespace ChipEight.Json

open Text (CodePoint IsPlain Points toNat_lt)

/-- Characters that are kept as they are in a file. -/
def Plain (cs : List Char) : Prop := ∀ c ∈ cs, IsPlain c

instance (c : Char) : Decidable (IsPlain c) := inferInstanceAs (Decidable (_ ∧ _))

instance (cs : List Char) : Decidable (Plain cs) := List.decidableBAll _ cs

theorem plain_nil : Plain [] := nofun

theorem Plain.append {a b : List Char} (ha : Plain a) (hb : Plain b) : Plain (a ++ b) :=
  List.forall_mem_append.2 ⟨ha, hb⟩

theorem Plain.cons {c : Char} {cs : List Char} (hc : IsPlain c) (h : Plain cs) :
    Plain (c :: cs) := List.forall_mem_cons.2 ⟨hc, h⟩

theorem plain_of_digits {cs : List Char} (h : Digits cs) : Plain cs := fun _ hc =>
  isDigit_induction (p := IsPlain) (by decide) (h _ hc)

/-! ## Numbers -/

theorem plain_repr (n : Nat) : Plain n.repr.toList := by
  rw [Nat.toList_repr]
  exact plain_of_digits (digits_toDigits n)

theorem plain_replicate {c : Char} (h : IsPlain c) (n : Nat) : Plain (List.replicate n c) :=
  fun _ hc => List.eq_of_mem_replicate hc ▸ h

theorem plain_exponentText (s : Numeral.RealStyle) (e : Int) : Plain (s.exponentText e).toList := by
  have hdigits : Plain (Text.padLeft s.exponentDigits e.natAbs.repr '0').toList := by
    rw [Text.padLeft, Text.filler, String.toList_append, String.toList_ofList]
    exact (plain_replicate (by decide) _).append (plain_repr _)
  rw [Numeral.RealStyle.exponentText, String.toList_append]
  refine Plain.append ?_ hdigits
  split <;> decide

theorem plain_place (s : Numeral.RealStyle) {ds : List Char} (h : Plain ds) (e : Int) :
    Plain (s.place ds e).toList := by
  have hzeros : ∀ n, Plain (List.replicate n '0') := plain_replicate (by decide)
  unfold Numeral.RealStyle.place
  split
  · split
    · simp only [String.toList_append, String.toList_ofList]
      exact Plain.append (by decide) ((hzeros _).append h)
    · simp only [String.toList_append, String.toList_ofList]
      have hfront : Plain (ds.take (e.toNat + 1)) := fun c hc => h c (List.mem_of_mem_take hc)
      refine ((hfront.append (hzeros _)).append (by decide)).append ?_
      split
      · decide
      · exact fun c hc => h c (List.mem_of_mem_drop hc)
  · split
    · rw [String.toList_append, String.toList_ofList]
      exact h.append (plain_exponentText s e)
    · next d rest _ =>
        rw [String.toList_append, String.toList_ofList]
        refine Plain.append ?_ (plain_exponentText s e)
        exact .cons (h d List.mem_cons_self)
          (.cons (by decide) fun c hc => h c (List.mem_cons_of_mem d hc))
    · exact plain_exponentText s e

theorem plain_sign (negative : Bool) : Plain (if negative then "-" else "").toList := by
  cases negative <;> decide

theorem plain_realStyle (x : Float) : Plain (realStyle.text x).toList := by
  unfold Numeral.RealStyle.text
  split
  · decide
  · rw [String.toList_append]
    exact (plain_sign _).append (by decide)
  · next negative m e _ =>
      rw [String.toList_append]
      refine (plain_sign _).append ?_
      unfold Numeral.RealStyle.magnitude
      split
      · decide
      · exact plain_place _ (plain_repr _) _

theorem plain_decimal (n : Int) : Plain (Numeral.decimal n).toList := by
  unfold Numeral.decimal Numeral.signed
  split
  · rw [String.toList_append]
    exact Plain.append (by decide) (plain_repr _)
  · exact plain_repr _

/-! ## Strings -/

theorem plain_digitChar : ∀ d < 16, IsPlain (Nat.digitChar d) := by decide

theorem plain_unitEscape {n : Nat} (h : n < 0x10000) : Plain (unitEscape n) := by
  rw [unitEscape, toList_lowHex_four h]
  refine .cons (by decide) (.cons (by decide) (.cons ?_ (.cons ?_ (.cons ?_ (.cons ?_ plain_nil)))))
  all_goals exact plain_digitChar _ (by omega)

theorem plain_charText (c : Char) : Plain (charText c) := by
  unfold charText
  split
  · next letter h =>
      unfold shortEscape? at h
      repeat' split at h
      all_goals first
        | cases h; decide
        | cases h
  · split
    · next h =>
        refine .cons ⟨by omega, ?_⟩ plain_nil
        rintro rfl
        exact absurd h.1 (by decide)
    · have hlt := toNat_lt c
      unfold codeEscape
      split
      · exact plain_unitEscape ‹_›
      · exact (plain_unitEscape (by omega)).append (plain_unitEscape (by omega))

theorem plain_pointText (p : CodePoint) : Plain (pointText p) := by
  cases p with
  | char c => exact plain_charText c
  | half place =>
      rw [pointText_half]
      exact plain_unitEscape (code_half_lt place)

theorem plain_stringText (s : Points) : Plain (stringText s) := by
  refine .cons (by decide) (Plain.append ?_ (by decide))
  intro c hc
  obtain ⟨p, -, hp⟩ := List.mem_flatMap.1 hc
  exact plain_pointText p c hp

/-! ## Values -/

theorem plain_break (l : Layout) (depth : Nat) : Plain (l.break depth) := by
  cases l with
  | none => exact plain_nil
  | some width => exact .cons (by decide) (plain_replicate (by decide) _)

theorem plain_colon (l : Layout) : Plain l.colon := by
  cases l
  · decide
  · exact .cons (by decide) (.cons (by decide) plain_nil)

theorem plain_enclose (l : Layout) (depth : Nat) {opening closing : Char} (ho : IsPlain opening)
    (hc : IsPlain closing) {texts : List (List Char)} (h : ∀ t ∈ texts, Plain t) :
    Plain (l.enclose depth opening closing texts) := by
  cases texts with
  | nil => exact .cons ho (.cons hc plain_nil)
  | cons t ts =>
      have hbreak := plain_break l (depth + 1)
      have htexts := intercalate_induction (P := fun w _ => Plain w) (l.break depth)
        (t := (l.break (depth + 1) ++ ·))
        (fun hb => (hbreak.append hb).append (plain_break l depth))
        (fun hb hw => (hbreak.append hb).append (.cons (by decide) hw)) h
      exact .cons ho (htexts.append (.cons hc plain_nil))

theorem Readable.plain {room : Nat} {v : Json} (h : Readable room v) (l : Layout) (depth : Nat) :
    Plain (valueText l depth v) := by
  induction h generalizing depth with
  | null => rw [valueText]; decide
  | bool b => cases b <;> rw [valueText] <;> decide
  | @number _ n _ =>
      rw [valueText]
      cases n with
      | whole n => exact plain_decimal n
      | real x => exact plain_realStyle x
  | string _ => rw [valueText]; exact plain_stringText _
  | array _ ih =>
      rw [valueText, itemTexts_eq_map]
      refine plain_enclose l depth (by decide) (by decide) (List.forall_mem_map.2 fun v hv => ?_)
      exact ih v hv (depth + 1)
  | object _ _ _ ih =>
      rw [valueText, memberTexts_eq_map]
      refine plain_enclose l depth (by decide) (by decide) (List.forall_mem_map.2 fun m hm => ?_)
      rw [memberText]
      exact ((plain_stringText m.1).append (plain_colon l)).append (ih m hm (depth + 1))

end ChipEight.Json
