import ChipEight.Proofs.Except
import ChipEight.Proofs.Json.Writing
import ChipEight.Proofs.Machine.Grammar
import ChipEight.Proofs.Numeral.Binary64
import ChipEight.Proofs.Tally
import ChipEight.Report.Statistics
import Mathlib.Data.List.Perm.Basic

/-!
# What the categories of a report add up to

The categories are told apart by their names alone, and a name that is in none of them
belongs to the last one. So there is a category for every name, and since no two lists of
names have one in common there is no second one. The counts in all categories are therefore
those of the tally in another order, and their totals add up to its total. The names that
the machine counts under are all in some list, and only a tally of other names has anything
for the last category.

A count that is positive has a share of the total, because the quotient of a number by one
that is not less is a double. It has no more digits than the total has.
-/

namespace ChipEight.Report

open Json (maxDigits)

namespace Category

/-- The names that a category counts: its own ones, and the last category those that are in
no other. -/
def Holds (c : Category) (name : String) : Prop :=
  name ∈ c.names ∨ c = other ∧ ∀ d : Category, name ∉ d.names

theorem mem_all (c : Category) : c ∈ all := by
  cases c <;> decide

/-- No word stands for two categories. -/
theorem label_injective : Function.Injective label := by
  have happart : ∀ c ∈ all, ∀ d ∈ all, c.label = d.label → c = d := by decide
  exact fun c d => happart c c.mem_all d d.mem_all

/-- No name belongs to two categories. -/
theorem eq_of_mem_names {c d : Category} {name : String} (hc : name ∈ c.names)
    (hd : name ∈ d.names) : c = d := by
  have happart : ∀ c ∈ all, ∀ d ∈ all, ∀ name ∈ c.names, name ∈ d.names → c = d := by decide
  exact happart c c.mem_all d d.mem_all name hc hd

/-- A name is counted in one category and in no other. -/
theorem holds_iff {c : Category} {name : String} : c.Holds name ↔ Category.of name = c := by
  have hmem : ∀ d : Category, d.names.contains name = true ↔ name ∈ d.names :=
    fun d => List.contains_iff_mem
  rw [Category.of]
  cases h : all.find? fun d => d.names.contains name with
  | none =>
      have hnone : ∀ d : Category, name ∉ d.names := fun d hd =>
        List.find?_eq_none.1 h d d.mem_all ((hmem d).2 hd)
      simp [Holds, hnone, eq_comm]
  | some d =>
      have hd : name ∈ d.names := (hmem d).1 (by simpa using List.find?_some h)
      constructor
      · rintro (hc | ⟨-, hnone⟩)
        · exact eq_of_mem_names hd hc
        · exact absurd hd (hnone d)
      · rintro rfl
        exact .inl hd

end Category

/-- A name under which an instruction is counted. -/
def IsMnemonic (name : String) : Prop :=
  ∃ word address i, Instruction.decode word address = .ok i ∧ i.mnemonic = name

theorem of_ne_other {name : String} (h : IsMnemonic name) : Category.of name ≠ .other := by
  obtain ⟨word, address, i, hi, rfl⟩ := h
  have hnamed : ∀ name ∈ Operation.mnemonics, Category.of name ≠ .other := by decide
  exact hnamed _ ((Instruction.decode_spec word address).2.1 i hi).name

/-! ## Parts of a whole -/

/-- The share that a part has of a whole. -/
def shareOf (part whole : Int) : Float := (Number.percentage part whole).toOption.getD 0

section

variable {part whole : Int} (hpart : 0 < part) (hle : part ≤ whole)

include hpart hle

theorem percentage_eq_shareOf : Number.percentage part whole = .ok (shareOf part whole) := by
  have hzero : part.natAbs ≠ 0 := by omega
  have hbits := Numeral.Binary64.nearestBits_lt_of_le hzero
    (by omega : part.natAbs ≤ whole.natAbs)
  have hquotient : ∃ x, Number.quotient part whole = .ok x := by
    rw [Number.quotient, if_neg (by omega)]
    simp only [Numeral.Binary64.nearest?, if_neg hzero, if_pos hbits]
    exact ⟨_, rfl⟩
  obtain ⟨x, hx⟩ := hquotient
  rw [shareOf, Number.percentage, hx]
  rfl

theorem isTooLong_of_part (hshort : whole.natAbs < 10 ^ maxDigits) :
    Json.isTooLong part = false :=
  Json.isTooLong_eq_false_iff.2 (Nat.lt_of_le_of_lt (by omega) hshort)

end

/-! ## Counts by category -/

variable {t : Tally}

/-- The counts that are in a category. -/
def membersOf (t : Tally) (c : Category) : Tally := t.filter fun e => Category.of e.1 = c

/-- The categories that counts are in. -/
def present (t : Tally) : List Category := Category.all.filter fun c => !(membersOf t c).isEmpty

theorem mem_membersOf {c : Category} {e : String × Int} :
    e ∈ membersOf t c ↔ e ∈ t ∧ c.Holds e.1 := by
  rw [membersOf, List.mem_filter, decide_eq_true_iff, Category.holds_iff]

theorem mem_present {c : Category} : c ∈ present t ↔ membersOf t c ≠ [] := by
  simp [present, Category.mem_all]

theorem membersOf_concat (t : Tally) (e : String × Int) (c : Category) :
    membersOf (t ++ [e]) c = membersOf t c ++ if Category.of e.1 = c then [e] else [] := by
  simp only [membersOf, List.filter_append, List.filter_singleton, Bool.cond_decide]

/-- What is in some category is everything, once. -/
theorem flatMap_membersOf_perm (t : Tally) : (Category.all.flatMap (membersOf t)).Perm t := by
  induction t with
  | nil => exact .of_eq rfl
  | cons e t ih =>
      have hcons : membersOf (e :: t) =
          fun c => (if Category.of e.1 = c then [e] else []) ++ membersOf t c := by
        funext c
        simp only [membersOf, List.filter_cons, decide_eq_true_iff]
        split <;> rfl
      have hsingle :
          (Category.all.flatMap fun c => if Category.of e.1 = c then [e] else []) = [e] := by
        generalize Category.of e.1 = d
        cases d <;> rfl
      rw [hcons]
      refine (List.flatMap_append_perm _ _ _).symm.trans ?_
      rw [hsingle]
      exact ih.cons e

/-- Nothing is in the categories that are left out. -/
theorem flatMap_present :
    (present t).flatMap (membersOf t) = Category.all.flatMap (membersOf t) := by
  rw [present]
  induction Category.all with
  | nil => rfl
  | cons c cs ih =>
      rw [List.flatMap_cons, ← ih]
      by_cases h : membersOf t c = [] <;> simp [h]

theorem total_membersOf_pos (h : t.Positive) {c : Category} (hc : c ∈ present t) :
    0 < (membersOf t c).total :=
  (h.sublist List.filter_sublist).total_pos (mem_present.1 hc)

theorem total_membersOf_le (h : t.Positive) (c : Category) :
    (membersOf t c).total ≤ t.total :=
  h.total_le List.filter_sublist

theorem percentage_membersOf (h : t.Positive) {c : Category} (hc : c ∈ present t) :
    Number.percentage (membersOf t c).total t.total =
      .ok (shareOf (membersOf t c).total t.total) :=
  percentage_eq_shareOf (total_membersOf_pos h hc) (total_membersOf_le h c)

/-! ## The sections of a report -/

/-- A category that is reported, with the counts that are in it. -/
structure Section where
  category : Category
  members : Tally
  share : Float

/-- A section's text. -/
def Section.text (s : Section) : String :=
  s.category.label ++ ": " ++ Numeral.grouped s.members.total ++ " ("
    ++ Numeral.fixed 0 s.share ++ "%)"

/-- Sections have all counts in them, each in the one section that it belongs to. -/
structure Classifies (t : Tally) (sections : List Section) : Prop where
  order : (sections.map Section.category).Sublist Category.all
  members : ∀ s ∈ sections, s.members ≠ [] ∧ ∀ e, e ∈ s.members ↔ e ∈ t ∧ s.category.Holds e.1
  whole : (sections.flatMap Section.members).Perm t
  once : ∀ e ∈ t, ∃! s, s ∈ sections ∧ e ∈ s.members
  total : (sections.map fun s => s.members.total).sum = t.total
  shares : ∀ s ∈ sections, Number.percentage s.members.total t.total = .ok s.share
  known : (∀ e ∈ t, IsMnemonic e.1) → ∀ s ∈ sections, s.category ≠ .other

/-- The sections of some counts. -/
def sectionsOf (t : Tally) : List Section :=
  (present t).map fun c => ⟨c, membersOf t c, shareOf (membersOf t c).total t.total⟩

theorem map_category_sectionsOf (t : Tally) : (sectionsOf t).map Section.category = present t := by
  rw [sectionsOf, List.map_map]
  exact List.map_id _

theorem flatMap_members_sectionsOf (t : Tally) :
    ((sectionsOf t).flatMap Section.members).Perm t := by
  rw [sectionsOf, List.flatMap_map, flatMap_present]
  exact flatMap_membersOf_perm t

theorem classifies_sectionsOf (h : t.Positive) : Classifies t (sectionsOf t) where
  order := by
    rw [map_category_sectionsOf]
    exact List.filter_sublist
  members := List.forall_mem_map.2 fun c hc => ⟨mem_present.1 hc, fun e => mem_membersOf⟩
  whole := flatMap_members_sectionsOf t
  once := by
    intro e he
    have hmem : e ∈ membersOf t (Category.of e.1) :=
      mem_membersOf.2 ⟨he, Category.holds_iff.2 rfl⟩
    have hpresent := mem_present.2 (List.ne_nil_of_mem hmem)
    refine ⟨_, ⟨List.mem_map.2 ⟨_, hpresent, rfl⟩, hmem⟩, ?_⟩
    rintro s ⟨hs, hes⟩
    obtain ⟨c, -, rfl⟩ := List.mem_map.1 hs
    rw [Category.holds_iff.1 (mem_membersOf.1 hes).2]
  total := by rw [← Tally.total_flatMap, Tally.total_perm (flatMap_members_sectionsOf t)]
  shares := List.forall_mem_map.2 fun c hc => percentage_membersOf h hc
  known := by
    intro hknown
    refine List.forall_mem_map.2 fun c hc hother => ?_
    obtain ⟨e, he⟩ := List.exists_mem_of_ne_nil _ (mem_present.1 hc)
    obtain ⟨het, hec⟩ := mem_membersOf.1 he
    exact of_ne_other (hknown e het) ((Category.holds_iff.1 hec).trans hother)

/-- What is added up under a category's word is the total of the counts that are in it. -/
theorem lookup_categoryTotals (t : Tally) (c : Category) :
    (categoryTotals t).lookup c.label =
      if (membersOf t c).isEmpty then none else some (membersOf t c).total := by
  -- the loop ends with the last count, so the induction takes counts from the end
  induction t using List.reverseRecOn with
  | nil => rfl
  | append_singleton t e ih =>
      have hcount : (categoryTotals t).count c.label = (membersOf t c).total := by
        rw [Tally.count, ih]
        cases h : membersOf t c <;> rfl
      rw [categoryTotals, List.foldl_append]
      show ((categoryTotals t).add (Category.of e.1).label e.2).lookup c.label = _
      rw [Tally.lookup_add, membersOf_concat]
      by_cases hc : Category.of e.1 = c
      · rw [hc, if_pos rfl, if_pos rfl, hcount, Tally.total_append]
        simp [Tally.total]
      · rw [if_neg fun h => hc (Category.label_injective h).symm, if_neg hc, List.append_nil, ih]

/-- The categories that have a total. -/
theorem filterMap_categoryTotals (t : Tally) :
    (Category.all.filterMap fun c => ((categoryTotals t).lookup c.label).map fun n => (c, n)) =
      (present t).map fun c => (c, (membersOf t c).total) := by
  rw [present]
  induction Category.all with
  | nil => rfl
  | cons c cs ih =>
      rw [List.filterMap_cons, List.filter_cons, ih, lookup_categoryTotals]
      cases (membersOf t c).isEmpty <;> rfl

theorem categoryTexts_eq (h : t.Positive) (hshort : t.total.natAbs < 10 ^ maxDigits) :
    categoryTexts t = .ok ((sectionsOf t).map Section.text) := by
  rw [categoryTexts, filterMap_categoryTotals, sectionsOf, List.map_map, mapM_eq_ok_iff,
    List.forall₂_map_left_iff, List.forall₂_map_right_iff, List.forall₂_same]
  intro c hc
  have hlong := isTooLong_of_part (total_membersOf_pos h hc) (total_membersOf_le h c) hshort
  show categoryText t.total c (membersOf t c).total = _
  rw [categoryText, hlong, percentage_membersOf h hc]
  rfl

end ChipEight.Report
