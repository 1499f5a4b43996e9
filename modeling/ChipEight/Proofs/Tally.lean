import ChipEight.Proofs.Dictionary
import ChipEight.Tally
import Mathlib.Algebra.Order.BigOperators.Group.List
import Mathlib.Algebra.Order.Ring.Int
import Mathlib.Data.List.Induction

/-!
# What a tally remembers

Counting forgets the order of things, except for one part of it: a name keeps the
place at which it first came up. So a tally that was bumped once for every name of
a list says how long the list is, how often each name is in it, and which names
came up first, in that order.

The total does not depend on the order either, nor on how the counts are put together,
and where every name came up it is no less than any part of it.
-/

namespace ChipEight.Tally

/-- One more of each name of a list, from left to right. -/
def bumpAll (t : Tally) (names : List String) : Tally :=
  names.foldl (fun t name => t.bump name) t

/-- The names that came up, in the order of their places. -/
def names (t : Tally) : List String := t.map Prod.fst

theorem bumpAll_concat (t : Tally) (ns : List String) (n : String) :
    t.bumpAll (ns ++ [n]) = (t.bumpAll ns).bump n :=
  List.foldl_append

/-! ## More of a name -/

theorem lookup_add (t : Tally) (name : String) (n : Int) (k : String) :
    (t.add name n).lookup k = if k = name then some (t.count name + n) else t.lookup k :=
  Dictionary.lookup_put name _ t k

theorem count_cons (n : String) (c : Int) (t : Tally) (name : String) :
    count ((n, c) :: t) name = if name = n then c else count t name := by
  rw [count, Dictionary.lookup_cons_eq_ite]
  split <;> rfl

theorem total_add (t : Tally) (name : String) (n : Int) :
    (t.add name n).total = t.total + n := by
  induction t with
  | nil => simp [add, Dictionary.put, total, count]
  | cons entry rest ih =>
      obtain ⟨k, c⟩ := entry
      rw [add, Dictionary.put, count_cons]
      by_cases hk : k = name
      · rw [if_pos hk, if_pos hk.symm, total, total]
        omega
      · rw [if_neg hk, if_neg (Ne.symm hk), total, total, ← add, ih]
        omega

/-- A bump counts for its own name and for no other. -/
theorem count_bump (t : Tally) (n name : String) :
    (t.bump n).count name = t.count name + if name = n then 1 else 0 := by
  rw [count, bump, lookup_add]
  split
  · next hname =>
      subst hname
      rfl
  · exact (Int.add_zero _).symm

theorem total_bump (t : Tally) (n : String) : (t.bump n).total = t.total + 1 := total_add t n 1

/-- A new name takes the last place, and a known one keeps its own. -/
theorem names_bump (t : Tally) (n : String) :
    (t.bump n).names = if n ∈ t.names then t.names else t.names ++ [n] :=
  Dictionary.map_fst_put n _ t

theorem nodup_names_bump {t : Tally} (h : t.names.Nodup) (n : String) :
    (t.bump n).names.Nodup :=
  Dictionary.nodup_map_fst_put h n _

/-! ## A whole list -/

theorem total_bumpAll (t : Tally) (ns : List String) :
    (t.bumpAll ns).total = t.total + ns.length := by
  induction ns using List.reverseRecOn with
  | nil => exact (Int.add_zero _).symm
  | append_singleton ns n ih =>
      rw [bumpAll_concat, total_bump, ih, List.length_append, List.length_singleton]
      omega

theorem count_bumpAll (t : Tally) (ns : List String) (name : String) :
    (t.bumpAll ns).count name = t.count name + ns.count name := by
  induction ns using List.reverseRecOn with
  | nil => exact (Int.add_zero _).symm
  | append_singleton ns n ih =>
      rw [bumpAll_concat, count_bump, ih, List.count_append, List.count_singleton]
      by_cases h : name = n
      · rw [if_pos h, if_pos (by rw [h]; exact beq_self_eq_true n)]
        omega
      · rw [if_neg h, if_neg (by rw [beq_iff_eq]; exact Ne.symm h)]
        omega

/-- The names are those of the list, each at its first place. -/
theorem names_bumpAll (ns : List String) : (bumpAll [] ns).names = ns.eraseDups := by
  induction ns using List.reverseRecOn with
  | nil => rfl
  | append_singleton ns n ih =>
      rw [bumpAll_concat, names_bump, ih, List.eraseDups_append]
      by_cases h : n ∈ ns
      · rw [if_pos (List.mem_eraseDups.2 h)]
        simp [List.removeAll, h]
      · rw [if_neg fun hm => h (List.mem_eraseDups.1 hm)]
        simp [List.removeAll, h, List.eraseDups_cons]

theorem nodup_names_bumpAll {t : Tally} (h : t.names.Nodup) (ns : List String) :
    (t.bumpAll ns).names.Nodup := by
  induction ns using List.reverseRecOn with
  | nil => exact h
  | append_singleton ns n ih =>
      rw [bumpAll_concat]
      exact nodup_names_bump ih n

/-! ## Sums -/

theorem total_eq_sum (t : Tally) : t.total = (t.map Prod.snd).sum := by
  induction t with
  | nil => rfl
  | cons entry rest ih => rw [total, ih, List.map_cons, List.sum_cons]

theorem total_append (s t : Tally) : total (s ++ t) = s.total + t.total := by
  simp only [total_eq_sum, List.map_append, List.sum_append]

theorem total_perm {s t : Tally} (h : s.Perm t) : s.total = t.total := by
  rw [total_eq_sum, total_eq_sum, (h.map _).sum_eq]

theorem total_flatMap {α : Type} (xs : List α) (f : α → Tally) :
    total (xs.flatMap f) = (xs.map fun x => (f x).total).sum := by
  induction xs with
  | nil => rfl
  | cons x xs ih => rw [List.flatMap_cons, total_append, ih, List.map_cons, List.sum_cons]

/-- Every name has come up. -/
def Positive (t : Tally) : Prop := ∀ e ∈ t, 0 < e.2

instance (t : Tally) : Decidable t.Positive := inferInstanceAs (Decidable (∀ _ ∈ t, _))

theorem Positive.sublist {s t : Tally} (h : t.Positive) (hs : s.Sublist t) : s.Positive :=
  fun e he => h e (hs.subset he)

theorem Positive.total_pos {t : Tally} (h : t.Positive) (hne : t ≠ []) : 0 < t.total := by
  rw [total_eq_sum]
  exact List.sum_pos _ (List.forall_mem_map.2 h) (mt List.map_eq_nil_iff.1 hne)

theorem Positive.total_le {s t : Tally} (h : t.Positive) (hs : s.Sublist t) :
    s.total ≤ t.total := by
  rw [total_eq_sum, total_eq_sum]
  exact (hs.map _).sum_le_sum (List.forall_mem_map.2 fun e he => Int.le_of_lt (h e he))

theorem Positive.le_total {t : Tally} (h : t.Positive) {e : String × Int} (he : e ∈ t) :
    e.2 ≤ t.total := by
  have hle := h.total_le (List.singleton_sublist.2 he)
  rwa [total, total, Int.add_zero] at hle

end ChipEight.Tally
