import ChipEight.Proofs.Json.Numbers

/-!
# A text is read exactly if it writes a value

The reader is sound and complete for the grammar. That what it took away writes what it
answers is an induction over its fuel. That it reads what is written is an induction over the
grammar, with the fuel bounded by the length of the text: a value takes a round, what stands
between its brackets another, and there is a character for each of them.

Both directions together leave one value for each text, and no text without a value that the
grammar would have had one for.
-/

namespace ChipEight.Json

open Text (Points)

/-! ## Blanks -/

theorem skipBlanks_append {b : List Char} (hb : Blank b) (cs : List Char) :
    skipBlanks (b ++ cs) = skipBlanks cs :=
  List.dropWhile_append_of_pos hb

theorem skipBlanks_cons {c : Char} (h : isBlank c = false) (cs : List Char) :
    skipBlanks (c :: cs) = c :: cs :=
  List.dropWhile_cons_of_neg (by rw [h]; decide)

theorem exists_blank_append (cs : List Char) : ∃ b, Blank b ∧ cs = b ++ skipBlanks cs :=
  ⟨cs.takeWhile isBlank, fun _ hc => List.mem_takeWhile_imp hc,
    List.takeWhile_append_dropWhile.symm⟩

/-! ## Values without parts -/

theorem scalar_of_read {cs rest : List Char} {v : Json} (h : scalar cs = .ok (v, rest)) :
    ∃ w, cs = w ++ rest ∧ Scalar w v := by
  unfold scalar at h
  split at h
  · obtain ⟨⟨s, rest'⟩, hs, hpair⟩ := map_eq_ok h
    cases hpair
    obtain ⟨w, rfl, hq⟩ := quotes_of_stringBody hs
    exact ⟨'"' :: (w ++ ['"']), by simp, .string hq⟩
  · cases h
    exact ⟨_, rfl, .null⟩
  · cases h
    exact ⟨_, rfl, .true⟩
  · cases h
    exact ⟨_, rfl, .false⟩
  · cases h
    exact ⟨_, rfl, .nan⟩
  · cases h
    exact ⟨_, rfl, .infinity⟩
  · cases h
    exact ⟨_, rfl, .negInfinity⟩
  · obtain ⟨l, n, hl, rfl, hn, rfl⟩ := literal_of_number? h
    exact ⟨l.text, rfl, .number hl hn⟩

theorem stringAfterMark_quotes {w : List Char} {s : Points} (h : Quotes w s) (rest : List Char) :
    stringAfterMark (w ++ '"' :: rest) = .ok (s, rest) :=
  stringBody_quotes h _ rest

theorem scalar_digit {d : Char} (hd : isDigit d = true) (cs : List Char) :
    scalar (d :: cs) = number? (d :: cs) := by
  refine scalar.eq_8 _ ?_ ?_ ?_ ?_ ?_ ?_ ?_ <;> rintro t ⟨⟩ <;> exact absurd hd (by decide)

theorem scalar_minus_digit {d : Char} (hd : isDigit d = true) (cs : List Char) :
    scalar ('-' :: d :: cs) = number? ('-' :: d :: cs) := by
  refine scalar.eq_8 _ ?_ ?_ ?_ ?_ ?_ ?_ ?_ <;> rintro t ⟨⟩
  exact absurd hd (by decide)

/-- What begins like a number is read as one: no word begins with a digit, and the one that
begins with a minus sign goes on with a letter. -/
theorem scalar_literal {l : Literal} (hl : l.WellFormed) (rest : List Char) :
    scalar (l.text ++ rest) = number? (l.text ++ rest) := by
  obtain ⟨d, ds, hwhole, hd, -⟩ := hl.exists_whole
  rw [Literal.text, Literal.sign, hwhole]
  cases l.negative
  · exact scalar_digit hd _
  · exact scalar_minus_digit hd _

theorem scalar_append {w : List Char} {v : Json} (h : Scalar w v) {rest : List Char}
    (hrest : Stops rest) : scalar (w ++ rest) = .ok (v, rest) := by
  cases h with
  | number hl hn => rw [scalar_literal hl, number?_literal hl hn hrest]
  | string hs =>
      rw [List.cons_append, List.append_assoc]
      show (stringAfterMark _).map _ = _
      rw [List.singleton_append, stringAfterMark_quotes hs]
      rfl
  | _ => rfl

/-! ## What is read is written -/

/-- What the three readers of values promise with so many rounds. -/
structure Sound (fuel : Nat) : Prop where
  value : ∀ {room cs v rest}, value room fuel cs = .ok (v, rest) →
    ∃ w, cs = w ++ rest ∧ Writes room w v
  items : ∀ {room cs vs rest}, items room fuel cs = .ok (vs, rest) →
    ∃ w, cs = w ++ ']' :: rest ∧ WritesItems room w vs
  members : ∀ {room cs ms rest}, members room fuel cs = .ok (ms, rest) →
    ∃ w, cs = w ++ '}' :: rest ∧ WritesMembers room w ms

theorem sound_zero : Sound 0 where
  value h := nomatch h
  items h := nomatch h
  members h := nomatch h

section Step

variable {fuel room : Nat} {cs rest : List Char}

theorem Sound.value_succ (hf : Sound fuel) {v : Json}
    (h : Json.value room (fuel + 1) cs = .ok (v, rest)) :
    ∃ w, cs = w ++ rest ∧ Writes room w v := by
  unfold Json.value at h
  split at h
  · next cs =>
      obtain - | room := room
      · cases h
      obtain ⟨b, hb, hcs⟩ := exists_blank_append cs
      simp only [Nat.add_one_ne_zero, if_false, Nat.add_sub_cancel] at h
      split at h
      · next behind hskip =>
          cases h
          exact ⟨'{' :: (b ++ ['}']), by rw [hcs, hskip]; simp, .emptyObject hb⟩
      · obtain ⟨⟨ms, rest'⟩, hms, hpair⟩ := bind_eq_ok h
        cases hpair
        obtain ⟨w, hw, hwrites⟩ := hf.members hms
        exact ⟨'{' :: (b ++ w ++ ['}']), by rw [hcs, hw]; simp,
          .object (hwrites.blank_append hb)⟩
  · next cs =>
      obtain - | room := room
      · cases h
      obtain ⟨b, hb, hcs⟩ := exists_blank_append cs
      simp only [Nat.add_one_ne_zero, if_false, Nat.add_sub_cancel] at h
      split at h
      · next behind hskip =>
          cases h
          exact ⟨'[' :: (b ++ [']']), by rw [hcs, hskip]; simp, .emptyArray hb⟩
      · obtain ⟨⟨vs, rest'⟩, hvs, hpair⟩ := bind_eq_ok h
        cases hpair
        obtain ⟨w, hw, hwrites⟩ := hf.items hvs
        exact ⟨'[' :: (b ++ w ++ [']']), by rw [hcs, hw]; simp,
          .array (hwrites.blank_append hb)⟩
  · obtain ⟨w, hw, hv⟩ := scalar_of_read h
    exact ⟨w, hw, .scalar hv⟩

theorem Sound.items_succ (hf : Sound fuel) {vs : List Json}
    (h : Json.items room (fuel + 1) cs = .ok (vs, rest)) :
    ∃ w, cs = w ++ ']' :: rest ∧ WritesItems room w vs := by
  rw [Json.items] at h
  obtain ⟨⟨v, behind⟩, hv, htail⟩ := bind_eq_ok h
  obtain ⟨x, rfl, hx⟩ := hf.value hv
  obtain ⟨b, hb, hbehind⟩ := exists_blank_append behind
  have hpadded : Padded (x ++ b) x := (padded_self x).append_blank hb
  simp only at htail
  split at htail
  · next behind' hskip =>
      cases htail
      exact ⟨x ++ b, by rw [hbehind, hskip]; simp, .one hpadded hx⟩
  · next behind' hskip =>
      obtain ⟨⟨more, rest'⟩, hmore, hpair⟩ := bind_eq_ok htail
      cases hpair
      obtain ⟨c, hc, hbehind'⟩ := exists_blank_append behind'
      obtain ⟨w, hw, hwrites⟩ := hf.items hmore
      refine ⟨(x ++ b) ++ ',' :: (c ++ w), ?_, .more hpadded hx (hwrites.blank_append hc)⟩
      rw [hbehind, hskip, hbehind', hw]
      simp
  · cases htail

theorem Sound.members_succ (hf : Sound fuel) {ms : Members}
    (h : Json.members room (fuel + 1) cs = .ok (ms, rest)) :
    ∃ w, cs = w ++ '}' :: rest ∧ WritesMembers room w ms := by
  unfold Json.members at h
  split at h
  · next cs =>
    obtain ⟨⟨name, behind⟩, hname, hcolon⟩ := bind_eq_ok h
    obtain ⟨q, rfl, hq⟩ := quotes_of_stringBody hname
    obtain ⟨a, ha, hbehind⟩ := exists_blank_append behind
    simp only at hcolon
    split at hcolon
    · next behind' hskip =>
        obtain ⟨⟨v, behind₂⟩, hv, htail⟩ := bind_eq_ok hcolon
        obtain ⟨x, hx, hwrites⟩ := hf.value hv
        obtain ⟨b, hb, hbehind'⟩ := exists_blank_append behind'
        obtain ⟨c, hc, hbehind₂⟩ := exists_blank_append behind₂
        have hnamed : Named ('"' :: (q ++ '"' :: (a ++ ':' :: (b ++ (x ++ c))))) name x :=
          ⟨[], q, a, b ++ (x ++ c), blank_nil, hq, ha, ⟨b, c, hb, hc, rfl⟩, rfl⟩
        simp only at htail
        split at htail
        · next behind₃ hskip' =>
            cases htail
            refine ⟨_, ?_, .one hnamed hwrites⟩
            rw [hbehind, hskip, hbehind', hx, hbehind₂, hskip']
            simp
        · next behind₃ hskip' =>
            obtain ⟨⟨more, rest'⟩, hmore, hpair⟩ := bind_eq_ok htail
            cases hpair
            obtain ⟨d, hd, hbehind₃⟩ := exists_blank_append behind₃
            obtain ⟨w, hw, hms⟩ := hf.members hmore
            refine ⟨_, ?_, .more hnamed hwrites (hms.blank_append hd)⟩
            rw [hbehind, hskip, hbehind', hx, hbehind₂, hskip', hbehind₃, hw]
            simp
        · cases htail
    · cases hcolon
  · cases h

end Step

theorem sound (fuel : Nat) : Sound fuel := by
  induction fuel with
  | zero => exact sound_zero
  | succ fuel ih => exact ⟨ih.value_succ, ih.items_succ, ih.members_succ⟩

/-! ## What is written is read -/

theorem stops_nil : Stops [] := nofun

theorem stops_comma (cs : List Char) : Stops (',' :: cs) := by
  rintro _ ⟨⟩
  decide

theorem stops_bracket (cs : List Char) : Stops (']' :: cs) := by
  rintro _ ⟨⟩
  decide

theorem stops_brace (cs : List Char) : Stops ('}' :: cs) := by
  rintro _ ⟨⟩
  decide

theorem Stops.blank_append {b cs : List Char} (hb : Blank b) (h : Stops cs) : Stops (b ++ cs) := by
  cases b with
  | nil => exact h
  | cons c b =>
      rintro _ ⟨⟩
      have hc := hb c List.mem_cons_self
      simp only [isBlank, Bool.or_eq_true, beq_iff_eq] at hc
      obtain ((rfl | rfl) | rfl) | rfl := hc <;> decide

/-- The reader finds a value behind the blanks in front of it. -/
theorem Writes.skipBlanks_padded {room : Nat} {w x : List Char} {v : Json}
    (hx : Writes room x v) (hw : Padded w x) :
    ∃ b, Blank b ∧ ∀ rest, skipBlanks (w ++ rest) = x ++ (b ++ rest) := by
  obtain ⟨a, b, ha, hb, rfl⟩ := hw
  obtain ⟨c, t, rfl, hc⟩ := hx.exists_cons
  refine ⟨b, hb, fun rest => ?_⟩
  rw [List.append_assoc, skipBlanks_append ha, List.append_assoc]
  exact skipBlanks_cons hc.1 _

theorem WritesItems.skipBlanks_append {room : Nat} {w : List Char} {vs : List Json}
    (h : WritesItems room w vs) (rest : List Char) :
    ∃ c t, skipBlanks (w ++ rest) = c :: t ∧ Opens c := by
  have hfirst : ∀ {w x : List Char} {v : Json} (rest : List Char), Padded w x →
      Writes room x v → ∃ c t, skipBlanks (w ++ rest) = c :: t ∧ Opens c := by
    intro w x v rest hw hv
    obtain ⟨b, -, hskip⟩ := hv.skipBlanks_padded hw
    obtain ⟨c, t, rfl, hc⟩ := hv.exists_cons
    exact ⟨c, _, hskip rest, hc⟩
  cases h with
  | one hw hv => exact hfirst rest hw hv
  | more hw hv _ =>
      rw [List.append_assoc]
      exact hfirst _ hw hv

theorem WritesMembers.skipBlanks_append {room : Nat} {w : List Char} {ms : Members}
    (h : WritesMembers room w ms) (rest : List Char) :
    ∃ t, skipBlanks (w ++ rest) = '"' :: t := by
  have hfirst : ∀ {w x : List Char} {name : Points} (rest : List Char), Named w name x →
      ∃ t, skipBlanks (w ++ rest) = '"' :: t := by
    rintro _ x name rest ⟨a, q, b, y, ha, -, -, -, rfl⟩
    rw [List.append_assoc, Json.skipBlanks_append ha]
    exact ⟨_, skipBlanks_cons (by decide) _⟩
  cases h with
  | one hw _ => exact hfirst rest hw
  | more hw _ _ =>
      rw [List.append_assoc]
      exact hfirst _ hw

section Equations

variable {room fuel : Nat} {b cs rest : List Char}

theorem value_scalar {w : List Char} {v : Json} (h : Scalar w v) (hrest : Stops rest) :
    value room (fuel + 1) (w ++ rest) = .ok (v, rest) := by
  have hread := scalar_append h hrest
  obtain ⟨c, t, rfl, -, hlist, hobject⟩ := h.exists_cons
  rw [value.eq_4]
  · exact hread
  · exact fun _ h => hobject (List.cons.inj h).1
  · exact fun _ h => hlist (List.cons.inj h).1

theorem value_emptyArray (hb : Blank b) :
    value (room + 1) (fuel + 1) ('[' :: (b ++ ']' :: rest)) = .ok (.array [], rest) := by
  rw [value.eq_3, if_neg (Nat.succ_ne_zero room), skipBlanks_append hb,
    skipBlanks_cons (by decide)]
  rfl

theorem value_emptyObject (hb : Blank b) :
    value (room + 1) (fuel + 1) ('{' :: (b ++ '}' :: rest)) = .ok (.object [], rest) := by
  rw [value.eq_2, if_neg (Nat.succ_ne_zero room), skipBlanks_append hb,
    skipBlanks_cons (by decide)]
  rfl

theorem value_array {vs : List Json} (hopen : ∀ t, skipBlanks cs ≠ ']' :: t)
    (h : items room fuel (skipBlanks cs) = .ok (vs, rest)) :
    value (room + 1) (fuel + 1) ('[' :: cs) = .ok (.array vs, rest) := by
  rw [value.eq_3, if_neg (Nat.succ_ne_zero room)]
  -- The match reduces by `hopen`, which leaves it no bracket to find.
  simp only [Nat.add_sub_cancel, h]
  rfl

theorem value_object {ms : Members} (hopen : ∀ t, skipBlanks cs ≠ '}' :: t)
    (h : members room fuel (skipBlanks cs) = .ok (ms, rest)) :
    value (room + 1) (fuel + 1) ('{' :: cs) = .ok (.object (Members.collect ms), rest) := by
  rw [value.eq_2, if_neg (Nat.succ_ne_zero room)]
  simp only [Nat.add_sub_cancel, h]
  rfl

theorem items_one {v : Json} (hb : Blank b)
    (hv : value room fuel cs = .ok (v, b ++ ']' :: rest)) :
    items room (fuel + 1) cs = .ok ([v], rest) := by
  rw [items.eq_2, hv, ok_bind]
  simp only [skipBlanks_append hb]
  rw [skipBlanks_cons (by decide)]
  rfl

theorem items_more {v : Json} {vs : List Json} (hb : Blank b)
    (hv : value room fuel cs = .ok (v, b ++ ',' :: rest)) {rest' : List Char}
    (hvs : items room fuel (skipBlanks rest) = .ok (vs, rest')) :
    items room (fuel + 1) cs = .ok (v :: vs, rest') := by
  rw [items.eq_2, hv, ok_bind]
  simp only [skipBlanks_append hb]
  rw [skipBlanks_cons (by decide)]
  simp only [hvs]
  rfl

/-- What is read behind a member. -/
def behindMember (room fuel : Nat) (name : Points) (v : Json) (rest : List Char) :
    Except Failure (Members × List Char) :=
  match skipBlanks rest with
  | '}' :: rest => .ok ([(name, v)], rest)
  | ',' :: rest => do
      let (more, rest) ← members room fuel (skipBlanks rest)
      .ok ((name, v) :: more, rest)
  | rest => problemAt .expectingComma rest

/-- A member is read up to the end of its value. -/
theorem members_named {w x : List Char} {name : Points} {v : Json} (hw : Named w name x)
    (hx : Writes room x v) (hrest : Stops rest)
    (hv : ∀ {rest}, Stops rest → value room fuel (x ++ rest) = .ok (v, rest)) :
    members room (fuel + 1) (skipBlanks (w ++ rest)) = behindMember room fuel name v rest := by
  obtain ⟨a, q, b, y, ha, hq, hb, hy, rfl⟩ := hw
  obtain ⟨c, hc, hskip⟩ := hx.skipBlanks_padded hy
  simp only [List.append_assoc, List.cons_append]
  rw [skipBlanks_append ha, skipBlanks_cons (by decide), members.eq_2, stringAfterMark_quotes hq,
    ok_bind]
  simp only [skipBlanks_append hb]
  rw [skipBlanks_cons (by decide)]
  simp only [hskip, hv (hrest.blank_append hc)]
  rw [behindMember, ← skipBlanks_append hc rest]
  rfl

end Equations

mutual

/-- A value is read as it is written, whatever stops it. -/
theorem Writes.read {room : Nat} {w : List Char} {v : Json} (h : Writes room w v) {fuel : Nat}
    (hfuel : 2 * w.length ≤ fuel) {rest : List Char} (hrest : Stops rest) :
    value room fuel (w ++ rest) = .ok (v, rest) := by
  -- A value has a first character, and that pays for this round and the next.
  obtain ⟨c, t, rfl, -⟩ := h.exists_cons
  obtain ⟨fuel, rfl⟩ : ∃ n, fuel = n + 1 := ⟨fuel - 1, by simp at hfuel; omega⟩
  cases h with
  | scalar hv => exact value_scalar hv hrest
  | emptyArray hb => simpa using value_emptyArray hb
  | @array _ w vs hvs =>
      have hread := hvs.read (show 2 * w.length + 1 ≤ fuel by simp at hfuel; omega) rest
      obtain ⟨c, t, ht, hc⟩ := hvs.skipBlanks_append (']' :: rest)
      simpa using value_array (fun _ h => hc.2.1 (List.cons.inj (ht.symm.trans h)).1) hread
  | emptyObject hb => simpa using value_emptyObject hb
  | @object _ w ms hms =>
      have hread := hms.read (show 2 * w.length + 1 ≤ fuel by simp at hfuel; omega) rest
      obtain ⟨t, ht⟩ := hms.skipBlanks_append ('}' :: rest)
      simpa using value_object (fun _ h => nomatch ht.symm.trans h) hread

/-- The items of a list are read up to the bracket behind them. -/
theorem WritesItems.read {room : Nat} {w : List Char} {vs : List Json}
    (h : WritesItems room w vs) {fuel : Nat} (hfuel : 2 * w.length + 1 ≤ fuel)
    (rest : List Char) :
    items room fuel (skipBlanks (w ++ ']' :: rest)) = .ok (vs, rest) := by
  obtain ⟨fuel, rfl⟩ : ∃ n, fuel = n + 1 := ⟨fuel - 1, by omega⟩
  cases h with
  | one hw hv =>
      have hlen := hw.length_le
      obtain ⟨b, hb, hskip⟩ := hv.skipBlanks_padded hw
      rw [hskip]
      exact items_one hb (hv.read (by omega) ((stops_bracket rest).blank_append hb))
  | @more _ w x w' v vs hw hv hvs =>
      have hlen := hw.length_le
      simp only [List.length_append, List.length_cons] at hfuel
      obtain ⟨b, hb, hskip⟩ := hv.skipBlanks_padded hw
      rw [List.append_assoc, List.cons_append, hskip]
      exact items_more hb (hv.read (by omega) ((stops_comma _).blank_append hb))
        (hvs.read (by omega) rest)

/-- The members of an object are read up to the brace behind them. -/
theorem WritesMembers.read {room : Nat} {w : List Char} {ms : Members}
    (h : WritesMembers room w ms) {fuel : Nat} (hfuel : 2 * w.length + 1 ≤ fuel)
    (rest : List Char) :
    members room fuel (skipBlanks (w ++ '}' :: rest)) = .ok (ms, rest) := by
  obtain ⟨fuel, rfl⟩ : ∃ n, fuel = n + 1 := ⟨fuel - 1, by omega⟩
  cases h with
  | one hw hv =>
      have hlen := hw.length_lt
      rw [members_named hw hv (stops_brace rest) (hv.read (by omega)), behindMember,
        skipBlanks_cons (by decide)]
      rfl
  | @more _ w x w' name v ms hw hv hms =>
      have hlen := hw.length_lt
      simp only [List.length_append, List.length_cons] at hfuel
      have hread := hms.read (show 2 * w'.length + 1 ≤ fuel by omega) rest
      rw [List.append_assoc, List.cons_append,
        members_named hw hv (stops_comma _) (hv.read (by omega)), behindMember,
        skipBlanks_cons (by decide)]
      simp only [hread]
      rfl

end

/-! ## The reader is exact -/

theorem denotes_of_parse {room : Nat} {text : String} {v : Json}
    (h : parse room text = .ok v) : Denotes room text v := by
  unfold parse ofChars at h
  split at h
  · cases h
  obtain ⟨⟨v', rest⟩, hv, hend⟩ := bind_eq_ok h
  obtain ⟨x, hx, hwrites⟩ := (sound _).value hv
  obtain ⟨a, ha, htext⟩ := exists_blank_append text.toList
  obtain ⟨b, hb, hrest⟩ := exists_blank_append rest
  simp only at hend
  split at hend
  · next hnil =>
      cases hend
      rw [hnil, List.append_nil] at hrest
      exact ⟨x, ⟨a, rest, ha, hrest ▸ hb, by rw [htext, hx]⟩, hwrites⟩
  · cases hend

/-- A value does not begin with a byte order mark. -/
theorem Writes.padded_ne_mark {room : Nat} {w x : List Char} {v : Json} (hx : Writes room x v)
    (hw : Padded w x) (t : List Char) : w ≠ '\uFEFF' :: t := by
  obtain ⟨a, b, ha, -, rfl⟩ := hw
  obtain ⟨c, u, rfl, hc⟩ := hx.exists_cons
  intro h
  cases a with
  | nil => exact hc.2.2.2 (List.cons.inj h).1
  | cons d a =>
      cases h
      exact absurd (ha _ List.mem_cons_self) (by decide)

theorem parse_of_denotes {room : Nat} {text : String} {v : Json}
    (h : Denotes room text v) : parse room text = .ok v := by
  obtain ⟨x, hpadded, hx⟩ := h
  obtain ⟨b, hb, hskip⟩ := hx.skipBlanks_padded hpadded
  have hlen := hpadded.length_le
  have hread := hx.read (show 2 * x.length ≤ 2 * text.toList.length + 2 by omega)
    (stops_nil.blank_append hb)
  have hskip' := hskip []
  rw [List.append_nil] at hskip'
  rw [parse, ofChars.eq_2 _ _ fun t => hx.padded_ne_mark hpadded t, hskip', hread]
  simp only [ok_bind, skipBlanks_append hb]
  rfl

/-- A text is read as a value exactly if it writes it. -/
theorem parse_eq_ok_iff {room : Nat} {text : String} {v : Json} :
    parse room text = .ok v ↔ Denotes room text v :=
  ⟨denotes_of_parse, parse_of_denotes⟩

end ChipEight.Json
