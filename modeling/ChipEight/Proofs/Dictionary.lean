import ChipEight.Dictionary
import Mathlib.Data.List.Basic

/-!
# What a dictionary holds

To store a value changes what is found under its own key and under no other one. The keys stay
in their order, and there is one more of them only if the key is new.
-/

namespace ChipEight.Dictionary

variable {α β : Type} [DecidableEq α]

section

variable [BEq α] [LawfulBEq α]

theorem lookup_cons_eq_ite (key : α) (value : β) (d : Dictionary α β) (k : α) :
    ((key, value) :: d).lookup k = if k = key then some value else d.lookup k := by
  by_cases h : k = key
  · rw [List.lookup_cons, beq_iff_eq.2 h, if_pos h]
  · rw [List.lookup_cons, beq_eq_false_iff_ne.2 h, if_neg h]

theorem lookup_put (key : α) (value : β) (d : Dictionary α β) (k : α) :
    (d.put key value).lookup k = if k = key then some value else d.lookup k := by
  induction d with
  | nil => exact lookup_cons_eq_ite key value [] k
  | cons entry d ih =>
      obtain ⟨l, w⟩ := entry
      rw [put]
      split
      · next hl =>
          subst hl
          rw [lookup_cons_eq_ite, lookup_cons_eq_ite]
          split <;> rfl
      · next hl =>
          rw [lookup_cons_eq_ite, lookup_cons_eq_ite, ih]
          split
          · next hk => rw [if_neg fun h => hl (hk.symm.trans h)]
          · rfl

end

theorem map_fst_put (key : α) (value : β) (d : Dictionary α β) :
    (d.put key value).map Prod.fst =
      if key ∈ d.map Prod.fst then d.map Prod.fst else d.map Prod.fst ++ [key] := by
  induction d with
  | nil => rfl
  | cons entry d ih =>
      obtain ⟨l, w⟩ := entry
      rw [put]
      split
      · next hl => simp [hl]
      · next hl =>
          simp only [List.map_cons, ih, List.mem_cons, Ne.symm hl, false_or]
          split <;> rfl

theorem nodup_map_fst_put {d : Dictionary α β} (h : (d.map Prod.fst).Nodup) (key : α)
    (value : β) : ((d.put key value).map Prod.fst).Nodup := by
  rw [map_fst_put]
  split
  · exact h
  · next hnew =>
      refine List.nodup_append.2 ⟨h, List.pairwise_singleton _ key, ?_⟩
      rintro a ha _ hb rfl
      exact hnew (List.mem_singleton.1 hb ▸ ha)

theorem put_of_notMem {key : α} {value : β} {d : Dictionary α β}
    (h : key ∉ d.map Prod.fst) : d.put key value = d ++ [(key, value)] := by
  induction d with
  | nil => rfl
  | cons entry d ih =>
      rw [List.map_cons, List.mem_cons, not_or] at h
      rw [put, if_neg (Ne.symm h.1), ih h.2, List.cons_append]

/-- No value comes from elsewhere. -/
theorem mem_put {key : α} {value : β} {d : Dictionary α β} {e : α × β}
    (h : e ∈ d.put key value) : e.2 = value ∨ e ∈ d := by
  induction d with
  | nil =>
      obtain rfl := List.mem_singleton.1 h
      exact .inl rfl
  | cons entry d ih =>
      rw [put] at h
      split at h
      · rcases List.mem_cons.1 h with rfl | hmem
        · exact .inl rfl
        · exact .inr (List.mem_cons_of_mem _ hmem)
      · rcases List.mem_cons.1 h with rfl | hmem
        · exact .inr List.mem_cons_self
        · exact (ih hmem).imp_right (List.mem_cons_of_mem _)

end ChipEight.Dictionary
