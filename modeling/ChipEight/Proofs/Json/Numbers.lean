import ChipEight.Proofs.Json.Strings
import Mathlib.Data.List.TakeWhile

/-!
# Numbers are read as they are written

That what the reader took away is a number holds with no condition on the rest of the text.
The other way it matters what stands behind: each part of the reader takes all the digits
there are, and a point or a letter may begin another part. A number is read as it is written
where something follows that stops it.
-/

namespace ChipEight.Json

/-! ## The parts of a number -/

theorem eq_append_of_spanDigits {cs ds rest : List Char} (h : spanDigits cs = (ds, rest)) :
    cs = ds ++ rest ∧ Digits ds := by
  cases h
  exact ⟨List.takeWhile_append_dropWhile.symm, fun c hc => List.mem_takeWhile_imp hc⟩

/-- No digit stands in front of the text. -/
def NoDigit (cs : List Char) : Prop := ∀ c ∈ cs.head?, isDigit c = false

theorem spanDigits_append {ds rest : List Char} (hds : Digits ds) (hrest : NoDigit rest) :
    spanDigits (ds ++ rest) = (ds, rest) := by
  rw [spanDigits, List.takeWhile_append_of_pos hds, List.dropWhile_append_of_pos hds]
  cases rest with
  | nil => simp
  | cons c cs =>
      have hc : isDigit c = false := hrest c rfl
      simp [hc]

theorem eq_append_of_wholeDigits {cs ds rest : List Char} (h : wholeDigits cs = (ds, rest))
    (hne : ds ≠ []) :
    cs = ds ++ rest ∧
      (ds = ['0'] ∨ ∃ d t, ds = d :: t ∧ isDigit d = true ∧ d ≠ '0' ∧ Digits t) := by
  unfold wholeDigits at h
  split at h
  · cases h
    exact ⟨rfl, .inl rfl⟩
  · next hzero =>
      obtain ⟨rfl, hds⟩ := eq_append_of_spanDigits h
      obtain ⟨d, t, rfl⟩ := List.exists_cons_of_ne_nil hne
      refine ⟨rfl, .inr ⟨d, t, rfl, hds d List.mem_cons_self, ?_,
        fun c hc => hds c (List.mem_cons_of_mem d hc)⟩⟩
      rintro rfl
      exact hzero _ rfl

theorem wholeDigits_append {ds rest : List Char}
    (hds : ds = ['0'] ∨ ∃ d t, ds = d :: t ∧ isDigit d = true ∧ d ≠ '0' ∧ Digits t)
    (hrest : NoDigit rest) : wholeDigits (ds ++ rest) = (ds, rest) := by
  obtain rfl | ⟨d, t, rfl, hd, hzero, ht⟩ := hds
  · rfl
  · rw [List.cons_append, wholeDigits.eq_2 _ fun _ h => hzero (List.cons.inj h).1,
      ← List.cons_append]
    exact spanDigits_append (List.forall_mem_cons.2 ⟨hd, ht⟩) hrest

theorem eq_append_of_fraction {cs ds rest : List Char} (h : fraction cs = (ds, rest)) :
    cs = (if ds = [] then [] else '.' :: ds) ++ rest ∧ Digits ds := by
  unfold fraction at h
  split at h
  · split at h
    · cases h
      exact ⟨rfl, fun _ h => nomatch h⟩
    · next hne hspan =>
        cases h
        obtain ⟨rfl, hds⟩ := eq_append_of_spanDigits hspan
        exact ⟨by rw [if_neg hne]; rfl, hds⟩
  · cases h
    exact ⟨rfl, fun _ h => nomatch h⟩

theorem fraction_append {ds rest : List Char} (hds : Digits ds) (hrest : NoDigit rest)
    (hpoint : ∀ c ∈ rest.head?, c ≠ '.') :
    fraction ((if ds = [] then [] else '.' :: ds) ++ rest) = (ds, rest) := by
  split
  · next hnil =>
      rw [hnil, List.nil_append, fraction.eq_2]
      rintro t rfl
      exact hpoint '.' rfl rfl
  · next hne =>
      rw [List.cons_append, fraction.eq_1, spanDigits_append hds hrest]
      cases ds with
      | nil => exact absurd rfl hne
      | cons d t => rfl

theorem eq_append_of_exponentSign {cs rest : List Char} {negative : Bool}
    (h : exponentSign cs = (negative, rest)) :
    ∃ sign, cs = sign ++ rest ∧ (sign = [] ∨ sign = ['+'] ∨ sign = ['-']) ∧
      (negative = true ↔ sign = ['-']) := by
  unfold exponentSign at h
  split at h <;> cases h
  · exact ⟨['-'], rfl, .inr (.inr rfl), by decide⟩
  · exact ⟨['+'], rfl, .inr (.inl rfl), by decide⟩
  · exact ⟨[], rfl, .inl rfl, by decide⟩

theorem exponentSign_append {sign ds : List Char}
    (hsign : sign = [] ∨ sign = ['+'] ∨ sign = ['-']) (hds : Digits ds) (hne : ds ≠ [])
    (rest : List Char) :
    exponentSign (sign ++ (ds ++ rest)) = (decide (sign = ['-']), ds ++ rest) := by
  obtain rfl | rfl | rfl := hsign
  · obtain ⟨d, t, rfl⟩ := List.exists_cons_of_ne_nil hne
    have hd := hds d List.mem_cons_self
    refine exponentSign.eq_3 _ ?_ ?_ <;> rintro t h <;> cases h <;> exact absurd hd (by decide)
  · rfl
  · rfl

theorem eq_append_of_exponent {cs rest : List Char} {e : Option Int}
    (h : exponent cs = (e, rest)) :
    ∃ x : Option Exponent, (∀ e ∈ x, e.WellFormed) ∧ e = x.map Exponent.value ∧
      cs = (x.map Exponent.text).getD [] ++ rest := by
  have hnone : ∀ {e : Option Int} {rest : List Char}, (none, cs) = (e, rest) →
      ∃ x : Option Exponent, (∀ e ∈ x, e.WellFormed) ∧ e = x.map Exponent.value ∧
        cs = (x.map Exponent.text).getD [] ++ rest := by
    rintro _ _ ⟨⟩
    exact ⟨none, nofun, rfl, rfl⟩
  unfold exponent at h
  split at h
  · split at h
    · next letter tail hletter =>
        rcases hsign : exponentSign tail with ⟨negative, digits⟩
        simp only [hsign] at h
        split at h
        · exact hnone h
        · next ds _ hne hspan =>
            cases h
            obtain ⟨sign, rfl, hwf, hneg⟩ := eq_append_of_exponentSign hsign
            obtain ⟨rfl, hds⟩ := eq_append_of_spanDigits hspan
            refine ⟨some ⟨letter, sign, ds⟩, ?_, ?_, ?_⟩
            · rintro _ ⟨⟩
              exact ⟨hletter, hwf, hds, hne⟩
            · simp only [Option.map_some, Exponent.value, hneg]
            · simp [Exponent.text]
    · exact hnone h
  · exact hnone h

theorem exponent_append {e : Exponent} (he : e.WellFormed) {rest : List Char}
    (hrest : NoDigit rest) : exponent (e.text ++ rest) = (some e.value, rest) := by
  have hsign := exponentSign_append he.sign he.digits he.some_digit rest
  simp only [Exponent.text, List.cons_append, List.append_assoc, exponent, he.letter, if_true,
    hsign, spanDigits_append he.digits hrest, decide_eq_true_eq]
  cases hds : e.digits with
  | nil => exact absurd hds he.some_digit
  | cons d t => simp only [Exponent.value, hds]

theorem exponent_none {cs : List Char} (h : ∀ c ∈ cs.head?, c ≠ 'e' ∧ c ≠ 'E') :
    exponent cs = (none, cs) := by
  cases cs with
  | nil => rfl
  | cons c cs =>
      have hc := h c rfl
      exact if_neg (by rintro (h | h) <;> simp_all)

/-! ## Numbers -/

/-- A number behind its sign; `cs` is what was left in front of the sign. -/
def unsignedNumber (cs : List Char) (negative : Bool) (unsigned : List Char) : Parsed Json :=
  match wholeDigits unsigned with
  | ([], _) => problemAt .expectingValue cs
  | (whole, rest) =>
      let (decimals, rest) := fraction rest
      let (e, rest) := exponent rest
      (makeNumber negative whole decimals e).map fun n => (.number n, rest)

theorem number?_unsigned {cs : List Char} (h : ∀ c ∈ cs.head?, c ≠ '-') :
    number? cs = unsignedNumber cs false cs :=
  number?.eq_2 cs fun rest hcs => h '-' (by rw [hcs]; rfl) rfl

theorem literal_of_unsignedNumber {cs unsigned rest : List Char} {negative : Bool} {v : Json}
    (h : unsignedNumber cs negative unsigned = .ok (v, rest)) :
    ∃ (l : Literal) (n : Number), l.WellFormed ∧ l.sign ++ unsigned = l.text ++ rest ∧
      l.negative = negative ∧ l.number = .ok n ∧ v = .number n := by
  unfold unsignedNumber at h
  split at h
  · cases h
  next whole behind hne hwhole =>
  obtain ⟨rfl, hwf⟩ := eq_append_of_wholeDigits hwhole hne
  rcases hfraction : fraction behind with ⟨decimals, rest₁⟩
  rcases hexponent : exponent rest₁ with ⟨e, rest₂⟩
  simp only [hfraction, hexponent] at h
  obtain ⟨rfl, hdecimals⟩ := eq_append_of_fraction hfraction
  obtain ⟨x, hx, rfl, rfl⟩ := eq_append_of_exponent hexponent
  obtain ⟨n, hn, hpair⟩ := map_eq_ok h
  cases hpair
  refine ⟨⟨negative, whole, decimals, x⟩, n, ⟨hwf, hdecimals, hx⟩, ?_, rfl, hn, rfl⟩
  simp only [Literal.text, Literal.fraction, List.append_assoc]

theorem literal_of_number? {cs rest : List Char} {v : Json} (h : number? cs = .ok (v, rest)) :
    ∃ (l : Literal) (n : Number), l.WellFormed ∧ cs = l.text ++ rest ∧ l.number = .ok n ∧
      v = .number n := by
  by_cases hminus : ∀ c ∈ cs.head?, c ≠ '-'
  · rw [number?_unsigned hminus] at h
    obtain ⟨l, n, hl, htext, hneg, hn, hv⟩ := literal_of_unsignedNumber h
    exact ⟨l, n, hl, by rw [← htext, Literal.sign, hneg]; rfl, hn, hv⟩
  · obtain ⟨cs, rfl⟩ : ∃ t, cs = '-' :: t := by
      cases cs with
      | nil => simp at hminus
      | cons c cs => exact ⟨cs, by simpa using hminus⟩
    obtain ⟨l, n, hl, htext, hneg, hn, hv⟩ := literal_of_unsignedNumber h
    exact ⟨l, n, hl, by rw [← htext, Literal.sign, hneg]; rfl, hn, hv⟩

/-- The text goes on with nothing that belongs to a number. -/
def Stops (cs : List Char) : Prop :=
  ∀ c ∈ cs.head?, isDigit c = false ∧ c ≠ '.' ∧ c ≠ 'e' ∧ c ≠ 'E'

theorem exponent_text_append {x : Option Exponent} (hx : ∀ e ∈ x, e.WellFormed)
    {rest : List Char} (hrest : Stops rest) :
    exponent ((x.map Exponent.text).getD [] ++ rest) = (x.map Exponent.value, rest) := by
  cases x with
  | none => exact exponent_none fun c hc => (hrest c hc).2.2
  | some e => exact exponent_append (hx e rfl) fun c hc => (hrest c hc).1

/-- An exponent begins with a letter, and without one the number stops. -/
theorem noDigit_exponent {x : Option Exponent} (hx : ∀ e ∈ x, e.WellFormed)
    {rest : List Char} (hrest : Stops rest) :
    ∀ c ∈ ((x.map Exponent.text).getD [] ++ rest).head?, isDigit c = false ∧ c ≠ '.' := by
  intro c hc
  cases x with
  | none => exact ⟨(hrest c hc).1, (hrest c hc).2.1⟩
  | some e =>
      cases hc
      rcases (hx e rfl).letter with h | h <;> rw [h] <;> decide

theorem noDigit_fraction {l : Literal} (hl : l.WellFormed) {rest : List Char}
    (hrest : Stops rest) :
    NoDigit (l.fraction ++ ((l.exponent.map Exponent.text).getD [] ++ rest)) := by
  intro c hc
  rw [Literal.fraction] at hc
  split at hc
  · exact (noDigit_exponent hl.exponent hrest c hc).1
  · cases hc
    decide

theorem unsignedNumber_literal {l : Literal} {n : Number} (hl : l.WellFormed)
    (hn : l.number = .ok n) (cs : List Char) {rest : List Char} (hrest : Stops rest) :
    unsignedNumber cs l.negative
      (l.whole ++ (l.fraction ++ ((l.exponent.map Exponent.text).getD [] ++ rest))) =
      .ok (.number n, rest) := by
  obtain ⟨d, ds, hwhole, -⟩ := hl.exists_whole
  have hexp := noDigit_exponent hl.exponent hrest
  have hfraction : fraction (l.fraction ++ ((l.exponent.map Exponent.text).getD [] ++ rest)) =
      (l.decimals, (l.exponent.map Exponent.text).getD [] ++ rest) :=
    fraction_append hl.decimals (fun c hc => (hexp c hc).1) (fun c hc => (hexp c hc).2)
  have hdigits := wholeDigits_append hl.whole (noDigit_fraction hl hrest)
  rw [Literal.number, hwhole] at hn
  rw [hwhole] at hdigits ⊢
  simp only [unsignedNumber, hdigits, hfraction, exponent_text_append hl.exponent hrest, hn]
  rfl

/-- A number is read as it is written, whatever stops it. -/
theorem number?_literal {l : Literal} {n : Number} (hl : l.WellFormed) (hn : l.number = .ok n)
    {rest : List Char} (hrest : Stops rest) :
    number? (l.text ++ rest) = .ok (.number n, rest) := by
  have hbody := fun cs => unsignedNumber_literal hl hn cs hrest
  obtain ⟨d, ds, hwhole, hd, -⟩ := hl.exists_whole
  simp only [Literal.text, Literal.sign, List.append_assoc]
  cases hneg : l.negative with
  | true =>
      rw [hneg] at hbody
      exact hbody _
  | false =>
      rw [hneg] at hbody
      rw [if_neg Bool.false_ne_true, List.nil_append, number?_unsigned]
      · exact hbody _
      · rw [hwhole]
        rintro _ ⟨⟩
        exact isDigit_induction (p := (· ≠ '-')) (by decide) hd

end ChipEight.Json
