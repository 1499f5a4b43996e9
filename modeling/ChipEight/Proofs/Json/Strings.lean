import ChipEight.Proofs.Except
import ChipEight.Proofs.Json.Grammar
import ChipEight.Proofs.Text.Points

/-!
# Strings are read as they are written

A string ends with the first mark that no backslash escapes, so its reader needs no
condition on what stands behind it. The one part of it that looks further than it takes is
the first half of a surrogate pair, which looks for the second: where an escape stands that
is no second half, it is left for the next round.
-/

namespace ChipEight.Json

open Text (CodePoint Points)

theorem consPoint_eq_ok {p : CodePoint} {read : Parsed Points} {s : Points} {rest : List Char}
    (h : consPoint p read = .ok (s, rest)) : ∃ t, read = .ok (t, rest) ∧ s = p :: t := by
  obtain ⟨⟨t, rest'⟩, ht, heq⟩ := map_eq_ok h
  cases heq
  exact ⟨t, ht, rfl⟩

/-! ## Escapes of sixteen bits -/

theorem hexValue?_lt {c : Char} {n : Nat} (h : Numeral.hexValue? c = some n) : n < 16 := by
  have hrange {first last : Char} (h : (decide (first ≤ c) && decide (c ≤ last)) = true) :
      first.toNat ≤ c.toNat ∧ c.toNat ≤ last.toNat := by
    rw [Bool.and_eq_true, decide_eq_true_eq, decide_eq_true_eq] at h
    exact ⟨Char.le_def.1 h.1, Char.le_def.1 h.2⟩
  unfold Numeral.hexValue? at h
  split_ifs at h <;> cases h
  all_goals
    have := hrange ‹_›
    simp only [Char.reduceToNat] at this ⊢
    omega

theorem Escapes.lt {w : List Char} {u : Nat} (h : Escapes w u) : u < 0x10000 := by
  obtain ⟨a, b, c, d, -, hu⟩ := h
  simp only [hexUnit?, Option.bind_eq_bind, Option.bind_eq_some_iff] at hu
  obtain ⟨a', ha, b', hb, c', hc, d', hd, hu⟩ := hu
  have ha := hexValue?_lt ha
  have hb := hexValue?_lt hb
  have hc := hexValue?_lt hc
  have hd := hexValue?_lt hd
  cases hu
  omega

theorem Escapes.code_ofCode {w : List Char} {u : Nat} (h : Escapes w u) :
    (CodePoint.ofCode u).code = u :=
  CodePoint.code_ofCode (Nat.lt_of_lt_of_le h.lt (by omega))

theorem escapes_of_hexUnit? {cs : List Char} {u : Nat} (h : hexUnit? cs = some u) :
    ∃ w, '\\' :: 'u' :: cs = w ++ cs.drop 4 ∧ Escapes w u :=
  match cs, h with
  | a :: b :: c :: d :: _, h => ⟨_, rfl, a, b, c, d, rfl, h⟩

/-- The second half behind a first one, where there is one and the text goes on behind it. -/
theorem lowHalf?_append {w rest : List Char} {low : Nat} (hw : Escapes w low)
    (hlow : IsLowHalf low) (hrest : rest ≠ []) : lowHalf? (w ++ rest) = .ok (some low) := by
  obtain ⟨a, b, c, d, rfl, hunit⟩ := hw
  obtain ⟨e, rest, rfl⟩ := List.exists_cons_of_ne_nil hrest
  have hunit' : hexUnit? (a :: b :: c :: d :: e :: rest) = some low := hunit
  simp only [List.cons_append, List.nil_append, lowHalf?, hunit']
  rw [if_neg (by simp)]
  exact congrArg Except.ok (if_pos hlow)

theorem escapes_of_lowHalf? {cs : List Char} {low : Nat} (h : lowHalf? cs = .ok (some low)) :
    ∃ w, cs = w ++ cs.drop 6 ∧ Escapes w low ∧ IsLowHalf low := by
  unfold lowHalf? at h
  split at h
  · split at h
    · cases h
    · split at h
      · cases h
      · next digits _ u hu =>
          have hlow := Except.ok.inj h
          split at hlow
          · next hrange =>
              cases hlow
              obtain ⟨w, hw, hesc⟩ := escapes_of_hexUnit? hu
              exact ⟨w, hw, hesc, hrange⟩
          · cases hlow
  · cases h

theorem unicodeEscape_pair {cs : List Char} {high low : Nat} (hlen : 4 < cs.length)
    (hu : hexUnit? cs = some high) (hhigh : IsHighHalf high)
    (hlow : lowHalf? (cs.drop 4) = .ok (some low)) :
    unicodeEscape cs = .ok (.ofCode (joinHalves high low), 10) := by
  rw [unicodeEscape, if_neg (by omega), hu]
  refine (if_pos hhigh).trans ?_
  rw [hlow]
  rfl

theorem unicodeEscape_unit {cs : List Char} {u : Nat} (hlen : 4 < cs.length)
    (hu : hexUnit? cs = some u) (halone : IsHighHalf u → lowHalf? (cs.drop 4) = .ok none) :
    unicodeEscape cs = .ok (.ofCode u, 4) := by
  rw [unicodeEscape, if_neg (by omega), hu]
  by_cases hhigh : IsHighHalf u
  · refine (if_pos hhigh).trans ?_
    rw [halone hhigh]
    rfl
  · exact if_neg hhigh

/-- What the digits of an escape stand for, with a second escape that belongs to it or alone. -/
theorem unicodeEscape_cases {cs : List Char} {p : CodePoint} {taken : Nat}
    (h : unicodeEscape cs = .ok (p, taken)) :
    ∃ u, hexUnit? cs = some u ∧
      ((IsHighHalf u ∧ ∃ low, lowHalf? (cs.drop 4) = .ok (some low) ∧
          p = .ofCode (joinHalves u low) ∧ taken = 10) ∨
        ((IsHighHalf u → lowHalf? (cs.drop 4) = .ok none) ∧ p = .ofCode u ∧ taken = 4)) := by
  unfold unicodeEscape at h
  split at h
  · cases h
  split at h
  · cases h
  next u hu =>
  refine ⟨u, hu, ?_⟩
  split at h
  · next hhigh =>
      obtain ⟨low, hlow, h⟩ := bind_eq_ok h
      cases low with
      | some low =>
          have hpair := Prod.mk.inj (Except.ok.inj h)
          exact .inl ⟨hhigh, low, hlow, hpair.1.symm, hpair.2.symm⟩
      | none =>
          have hpair := Prod.mk.inj (Except.ok.inj h)
          exact .inr ⟨fun _ => hlow, hpair.1.symm, hpair.2.symm⟩
  · next hother =>
      have hpair := Prod.mk.inj (Except.ok.inj h)
      exact .inr ⟨fun hhigh => absurd hhigh hother, hpair.1.symm, hpair.2.symm⟩

/-! ## Strings -/

theorem code_joinHalves {high low : Nat} (hhigh : IsHighHalf high) (hlow : IsLowHalf low) :
    (CodePoint.ofCode (joinHalves high low)).code =
      0x10000 + (high - 0xD800) * 0x400 + (low - 0xDC00) := by
  have hhigh := hhigh.2
  have hlow := hlow.2
  refine CodePoint.code_ofCode ?_
  unfold joinHalves
  omega

theorem quotes_of_stringBody {opening : Nat} {cs rest : List Char} {s : Points}
    (h : stringBody opening cs = .ok (s, rest)) : ∃ w, cs = w ++ '"' :: rest ∧ Quotes w s := by
  fun_induction stringBody opening cs generalizing s with
  | case1 => cases h
  | case2 rest' =>
      cases h
      exact ⟨[], rfl, .nil⟩
  | case3 => cases h
  | case4 => cases h
  | case5 cs p taken hesc ih =>
      obtain ⟨t, ht, rfl⟩ := consPoint_eq_ok h
      obtain ⟨w, hw, hq⟩ := ih ht
      obtain ⟨u, hu, ⟨hhigh, low, hlow, hp, rfl⟩ | ⟨halone, hp, rfl⟩⟩ :=
        unicodeEscape_cases hesc <;> rw [hp]
      · obtain ⟨x, hx, hux⟩ := escapes_of_hexUnit? hu
        obtain ⟨y, hy, hly, hrange⟩ := escapes_of_lowHalf? hlow
        rw [List.drop_drop] at hy
        refine ⟨x ++ (y ++ w), ?_,
          .pair hux hhigh hly hrange (code_joinHalves hhigh hrange) hq⟩
        rw [hx, hy, hw]
        simp only [List.append_assoc]
      · obtain ⟨x, hx, hux⟩ := escapes_of_hexUnit? hu
        refine ⟨x ++ w, by rw [hx, hw, List.append_assoc], ?_⟩
        refine .unit (by rwa [hux.code_ofCode]) ?_ hq
        rw [hux.code_ofCode]
        rintro ⟨hhigh, y, low, r, rfl, hy, hlow⟩
        -- the closing mark stands behind the second half
        have hsome := lowHalf?_append hy hlow (show r ++ '"' :: rest ≠ [] by simp)
        rw [← List.append_assoc, ← hw, halone hhigh] at hsome
        cases hsome
  | case6 => cases h
  | case7 e cs _ c he ih =>
      obtain ⟨t, ht, rfl⟩ := consPoint_eq_ok h
      obtain ⟨w, rfl, hq⟩ := ih ht
      exact ⟨'\\' :: e :: w, rfl, .letter he hq⟩
  | case8 => cases h
  | case9 c cs hmark hend _ hletter hcode ih =>
      obtain ⟨t, ht, rfl⟩ := consPoint_eq_ok h
      obtain ⟨w, rfl, hq⟩ := ih ht
      refine ⟨c :: w, rfl, .plain hmark (fun hslash => ?_) (by omega) hq⟩
      cases w with
      | nil => exact hletter _ _ hslash rfl
      | cons d w => exact hletter d _ hslash rfl

theorem not_unescape?_u : unescape? 'u' = none := by decide

theorem lowHalf?_quotes {w rest : List Char} {s : Points} (h : Quotes w s) (hlow : ¬BeginsLow w) :
    lowHalf? (w ++ '"' :: rest) = .ok none := by
  have hunit : ∀ {x t : List Char} {u : Nat}, Escapes x u → (BeginsLow (x ++ t) → False) →
      lowHalf? (x ++ t ++ '"' :: rest) = .ok none := by
    intro x t u hx hno
    by_cases hu : IsLowHalf u
    · exact absurd ⟨x, u, t, rfl, hx, hu⟩ hno
    · obtain ⟨a, b, c, d, rfl, hcode⟩ := hx
      have hcode' : hexUnit? (a :: b :: c :: d :: (t ++ '"' :: rest)) = some u := hcode
      simp only [List.cons_append, List.nil_append, lowHalf?, hcode']
      split
      · rfl
      · exact congrArg Except.ok (if_neg hu)
  cases h with
  | nil => rfl
  | plain _ hslash => exact lowHalf?.eq_2 _ fun _ h => hslash (List.cons.inj h).1
  | letter he =>
      refine lowHalf?.eq_2 _ fun _ h => ?_
      cases h
      exact nomatch not_unescape?_u.symm.trans he
  | pair hx _ _ _ _ _ => exact hunit hx hlow
  | unit hx _ _ => exact hunit hx hlow

theorem stringBody_plain {c : Char} (hmark : c ≠ '"') (hslash : c ≠ '\\') (hcode : 0x20 ≤ c.toNat)
    (opening : Nat) (cs : List Char) :
    stringBody opening (c :: cs) = consPoint (.char c) (stringBody opening cs) := by
  rw [stringBody.eq_6 _ _ _ hmark (fun h => absurd h hslash) (fun _ h => absurd h hslash)
    (fun _ _ h => absurd h hslash), if_neg (by omega)]

theorem stringBody_letter {e c : Char} (he : unescape? e = some c) (opening : Nat)
    (cs : List Char) :
    stringBody opening ('\\' :: e :: cs) = consPoint (.char c) (stringBody opening cs) := by
  rw [stringBody.eq_5 _ _ _ (by rintro rfl; cases not_unescape?_u.symm.trans he), he]

theorem stringBody_escape {cs : List Char} {p : CodePoint} {taken : Nat}
    (h : unicodeEscape cs = .ok (p, taken)) (opening : Nat) :
    stringBody opening ('\\' :: 'u' :: cs) =
      consPoint p (stringBody opening (cs.drop taken)) := by
  rw [stringBody.eq_4, h]

/-- A string that is written between marks is read up to the closing one. -/
theorem stringBody_quotes {w : List Char} {s : Points} (h : Quotes w s) (opening : Nat)
    (rest : List Char) : stringBody opening (w ++ '"' :: rest) = .ok (s, rest) := by
  induction h with
  | nil => rw [List.nil_append, stringBody]
  | plain hmark hslash hcode _ ih =>
      rw [List.cons_append, stringBody_plain hmark hslash hcode, ih]
      rfl
  | letter he _ ih =>
      rw [List.cons_append, List.cons_append, stringBody_letter he, ih]
      rfl
  | @pair x y w s high low p hx hhigh hy hlow hp _ ih =>
      have hp := CodePoint.code_injective (hp.trans (code_joinHalves hhigh hlow).symm)
      obtain ⟨a, b, c, d, rfl, hcode⟩ := hx
      have hsecond : lowHalf? (y ++ (w ++ '"' :: rest)) = .ok (some low) :=
        lowHalf?_append hy hlow (by simp)
      obtain ⟨a', b', c', d', rfl, -⟩ := hy
      have hesc : unicodeEscape
          (a :: b :: c :: d :: '\\' :: 'u' :: a' :: b' :: c' :: d' :: (w ++ '"' :: rest)) =
            .ok (.ofCode (joinHalves high low), 10) :=
        unicodeEscape_pair (by simp) hcode hhigh hsecond
      simp only [List.cons_append, List.nil_append]
      rw [stringBody_escape hesc, hp]
      exact congrArg (consPoint _) ih
  | @unit x w s p hx halone hs ih =>
      have hp : CodePoint.ofCode p.code = p := CodePoint.code_injective hx.code_ofCode
      obtain ⟨a, b, c, d, rfl, hcode⟩ := hx
      have hesc : unicodeEscape (a :: b :: c :: d :: (w ++ '"' :: rest)) =
          .ok (.ofCode p.code, 4) :=
        unicodeEscape_unit (by simp only [List.length_cons, List.length_append]; omega) hcode
          fun hhigh => lowHalf?_quotes hs fun hlow => halone ⟨hhigh, hlow⟩
      simp only [List.cons_append, List.nil_append]
      rw [stringBody_escape hesc, hp]
      exact congrArg (consPoint _) ih

end ChipEight.Json
