import ChipEight.Proofs.Dictionary
import ChipEight.Proofs.Json.Reading
import Mathlib.Algebra.Group.Nat.Defs
import Mathlib.Data.List.Induction

/-!
# The members of an object

An object keeps one member of each name: the place of the first of them and the value of the
last. A text that writes an object says which members it writes, and what the object holds
follows from that alone.
-/

namespace ChipEight.Json

open Text (Points)

namespace Members

/-- The value of the last member of a name. -/
def last? (written : Members) (name : Points) : Option Json := written.reverse.lookup name

theorem collect_append (ms : Members) (name : Points) (v : Json) :
    collect (ms ++ [(name, v)]) = (collect ms).put name v := by
  rw [collect, List.foldl_append]
  rfl

theorem lookup_collect (written : Members) (name : Points) :
    (collect written).lookup name = written.last? name := by
  induction written using List.reverseRecOn with
  | nil => rfl
  | append_singleton ms m ih =>
      obtain ⟨k, w⟩ := m
      rw [collect_append, Dictionary.lookup_put, last?, List.reverse_append,
        List.reverse_singleton, List.singleton_append, Dictionary.lookup_cons_eq_ite, ih, last?]

theorem mem_map_fst_collect {written : Members} {name : Points} :
    name ∈ (collect written).map Prod.fst ↔ name ∈ written.map Prod.fst := by
  induction written using List.reverseRecOn with
  | nil => rfl
  | append_singleton ms m ih =>
      obtain ⟨k, w⟩ := m
      rw [collect_append, Dictionary.map_fst_put, List.map_append, List.mem_append, ← ih]
      split
      · next hk => exact (or_iff_left_of_imp fun h => List.mem_singleton.1 h ▸ hk).symm
      · rw [List.mem_append]
        rfl

theorem nodup_collect (written : Members) : ((collect written).map Prod.fst).Nodup := by
  induction written using List.reverseRecOn with
  | nil => exact List.nodup_nil
  | append_singleton ms m ih =>
      obtain ⟨k, w⟩ := m
      rw [collect_append]
      exact Dictionary.nodup_map_fst_put ih k w

/-- Members of different names are kept as they are. -/
theorem collect_of_nodup {ms : Members} (h : (ms.map Prod.fst).Nodup) : collect ms = ms := by
  induction ms using List.reverseRecOn with
  | nil => rfl
  | append_singleton ms m ih =>
      obtain ⟨k, w⟩ := m
      rw [List.map_append, List.nodup_append] at h
      rw [collect_append, ih h.1, Dictionary.put_of_notMem fun hk => h.2.2 k hk k (by simp) rfl]

end Members

/-! ## Texts of objects -/

/-- The text writes an object, with these members in the order in which they stand. The object
takes up room for one container itself. -/
def DenotesObject (room : Nat) (text : String) (written : Members) : Prop :=
  ∃ w inner, room = inner + 1 ∧ Padded text.toList ('{' :: (w ++ ['}'])) ∧
    (Blank w ∧ written = [] ∨ WritesMembers inner w written)

theorem denotes_object_iff {room : Nat} {text : String} {ms : Members} :
    Denotes room text (.object ms) ↔
      ∃ written, DenotesObject room text written ∧ ms = Members.collect written := by
  constructor
  · rintro ⟨x, hpadded, hx⟩
    cases hx with
    | scalar hv => cases hv
    | emptyObject hb => exact ⟨[], ⟨_, _, rfl, hpadded, .inl ⟨hb, rfl⟩⟩, rfl⟩
    | object hms => exact ⟨_, ⟨_, _, rfl, hpadded, .inr hms⟩, rfl⟩
  · rintro ⟨written, ⟨w, inner, rfl, hpadded, ⟨hb, rfl⟩ | hms⟩, rfl⟩
    · exact ⟨_, hpadded, .emptyObject hb⟩
    · exact ⟨_, hpadded, .object hms⟩

/-! ## What holds of everything that is written -/

theorem digitsValue_lt {ds : List Char} (h : Digits ds) : digitsValue ds < 10 ^ ds.length := by
  induction ds using List.reverseRecOn with
  | nil => decide
  | append_singleton ds d ih =>
      obtain ⟨hds, hd⟩ := List.forall_mem_append.1 h
      have hlt := ih hds
      have hd := toNat_of_isDigit (hd d (List.mem_singleton_self d))
      rw [digitsValue, List.foldl_append, List.length_append, List.length_singleton, Nat.pow_succ]
      show digitsValue ds * 10 + (d.toNat - 48) < _
      omega

theorem Literal.WellFormed.digits_whole {l : Literal} (h : l.WellFormed) : Digits l.whole := by
  obtain ⟨d, ds, hwhole, hd, hds⟩ := h.exists_whole
  rw [hwhole]
  exact List.forall_mem_cons.2 ⟨hd, hds⟩

/-- An integer that is written has no more digits than are read. -/
theorem Writes.natAbs_lt {room : Nat} {w : List Char} {n : Int}
    (h : Writes room w (.number (.whole n))) : n.natAbs < 10 ^ maxDigits := by
  cases h with
  | scalar hv =>
      cases hv with
      | @number l _ hl hn =>
          rw [Literal.number] at hn
          unfold makeNumber at hn
          split at hn
          · split at hn
            · cases hn
            · next hlen =>
                have hlt := digitsValue_lt hl.digits_whole
                have hpow : 10 ^ l.whole.length ≤ 10 ^ maxDigits :=
                  Nat.pow_le_pow_right (by decide) (Nat.not_lt.1 hlen)
                have hvalue := Number.whole.inj (Except.ok.inj hn)
                have habs : n.natAbs = digitsValue l.whole := by
                  rw [← hvalue]
                  split <;> omega
                omega
          · cases hn

/-- An object that is written has one member of each name. -/
theorem Writes.nodup {room : Nat} {w : List Char} {ms : Members}
    (h : Writes room w (.object ms)) : (ms.map Prod.fst).Nodup := by
  cases h with
  | scalar hv => cases hv
  | emptyObject _ => exact List.nodup_nil
  | object _ => exact Members.nodup_collect _

theorem WritesMembers.writes_of_mem {room : Nat} {w : List Char} {ms : Members} :
    WritesMembers room w ms → ∀ m ∈ ms, ∃ x, Writes room x m.2
  | .one _ hv, m, hm => by
      cases List.mem_singleton.1 hm
      exact ⟨_, hv⟩
  | .more _ hv hms, m, hm => by
      rcases List.mem_cons.1 hm with rfl | hm
      · exact ⟨_, hv⟩
      · exact hms.writes_of_mem m hm

/-- What counts of the members of a text is written in it. -/
theorem DenotesObject.writes_last {room : Nat} {text : String} {written : Members}
    (h : DenotesObject room text written) {name : Points} {v : Json}
    (hv : written.last? name = some v) : ∃ inner x, Writes inner x v := by
  obtain ⟨before, behind, heq, -⟩ := List.lookup_eq_some_iff.1 hv
  have hmem : (name, v) ∈ written := List.mem_reverse.1 (heq ▸ by simp)
  obtain ⟨w, inner, -, -, ⟨-, rfl⟩ | hms⟩ := h
  · cases hmem
  · exact ⟨inner, hms.writes_of_mem _ hmem⟩

end ChipEight.Json
