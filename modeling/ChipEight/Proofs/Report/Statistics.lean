import ChipEight.Proofs.Report.Categories
import ChipEight.Proofs.Report.Columns

/-!
# A report on counts leaves nothing out

A report shows a tally three times: as entries, in the order of the counts and with all but the
first few put together; as a grid, which has the entries in another order; and by categories. Each
of these is a rearrangement of the tally, and so each adds up to the total that is printed above
them. The order is the one of the counts, and names that were counted equally often stay in the
order in which they came up.

There is a report for all positive counts whose total can be written. A number of more digits than
that is not written by anybody, and the total is the greatest of the numbers in a report. Nothing
else can go wrong, since a positive count has a share of the total.

What is proved about a report is stated about a sheet. It has the contents apart from each other,
and the text is made from it by filling up columns, which are wider than any text in them.
-/

namespace ChipEight.Report

open Json (maxDigits)
open Numeral (decimal grouped)

variable {t : Tally} {top : Int}

/-! ## The order of the counts -/

/-- The counts of a tally in descending order, equal ones in the order they had. -/
structure Ranks (t ranking : Tally) : Prop where
  perm : ranking.Perm t
  descending : ranking.Pairwise fun a b => b.2 ≤ a.2
  stable : ∀ n, (ranking.filter fun e => e.2 = n) = t.filter fun e => e.2 = n

theorem ranks_ranked (t : Tally) : Ranks t (ranked t) := by
  have htrans : ∀ a b c : String × Int, decide (b.2 ≤ a.2) = true → decide (c.2 ≤ b.2) = true →
      decide (c.2 ≤ a.2) = true := by
    simp only [decide_eq_true_iff]
    omega
  have htotal : ∀ a b : String × Int, (decide (b.2 ≤ a.2) || decide (a.2 ≤ b.2)) = true := by
    simp only [Bool.or_eq_true, decide_eq_true_iff]
    omega
  have hperm : (ranked t).Perm t := List.mergeSort_perm t _
  refine ⟨hperm, (List.pairwise_mergeSort htrans htotal t).imp of_decide_eq_true, fun n => ?_⟩
  -- equal counts are in order already, and sorting keeps what is in order
  have hequal : ∀ e ∈ t.filter fun e => e.2 = n, e.2 = n := fun e he =>
    of_decide_eq_true (List.mem_filter.1 he).2
  have hordered : (t.filter fun e => e.2 = n).Pairwise fun a b => decide (b.2 ≤ a.2) = true :=
    List.pairwise_of_forall_mem_list fun a ha b hb => by
      rw [hequal a ha, hequal b hb, decide_eq_true_iff]
  have hkept : (t.filter fun e => e.2 = n).Sublist ((ranked t).filter fun e => e.2 = n) := by
    have hsub := (List.sublist_mergeSort htrans htotal hordered List.filter_sublist).filter
      fun e => e.2 = n
    rw [ranked]
    simpa only [List.filter_filter, Bool.and_self] using hsub
  exact (hkept.eq_of_length (hperm.filter _).length_eq.symm).symm

/-! ## The entries -/

/-- What is listed: the counts shown by themselves, and the others if there are any. -/
def itemsOf (shown left : Tally) : Tally :=
  shown ++ if left.isEmpty then [] else [(othersName, left.total)]

/-- Entries list a tally: the first `top` of the ranked counts each by itself, all others
together, and nothing else. -/
structure Itemizes (t : Tally) (top : Int) (shown left : Tally) (es : List Entry) : Prop where
  ranks : Ranks t (shown ++ left)
  most : (shown.length : Int) = min top t.length
  items : es.map (fun e => (e.name, e.count)) = itemsOf shown left
  total : (es.map Entry.count).sum = t.total
  shares : ∀ e ∈ es, Number.percentage e.count t.total = .ok e.share

/-- An item with its share. -/
def entryOf (total : Int) (item : String × Int) : Entry :=
  ⟨item.1, item.2, shareOf item.2 total⟩

theorem total_itemsOf (shown left : Tally) :
    (itemsOf shown left).total = (shown ++ left).total := by
  rw [itemsOf, Tally.total_append, Tally.total_append]
  cases left with
  | nil => rfl
  | cons e rest => simp [Tally.total]

theorem positive_itemsOf {shown left : Tally} (h : (shown ++ left).Positive) :
    (itemsOf shown left).Positive := by
  intro e he
  rcases List.mem_append.1 he with hshown | hothers
  · exact h e (List.mem_append_left left hshown)
  · cases left with
    | nil => cases hothers
    | cons e' rest =>
        obtain rfl := List.mem_singleton.1 hothers
        exact (h.sublist (List.sublist_append_right shown _)).total_pos (List.cons_ne_nil e' rest)

theorem splitPoint_of_pos (htop : 1 ≤ top) (n : Nat) : splitPoint n top = min top.toNat n := by
  rw [splitPoint, if_pos (by omega)]

/-- The counts that are shown by themselves. -/
def shownOf (t : Tally) (top : Int) : Tally := (ranked t).take (splitPoint t.length top)

/-- The counts that are not. -/
def leftOf (t : Tally) (top : Int) : Tally := (ranked t).drop (splitPoint t.length top)

/-- What a report lists. -/
def listed (t : Tally) (top : Int) : Tally := itemsOf (shownOf t top) (leftOf t top)

theorem shownOf_append_leftOf (t : Tally) (top : Int) : shownOf t top ++ leftOf t top = ranked t :=
  List.take_append_drop _ _

theorem length_ranked (t : Tally) : (ranked t).length = t.length := (ranks_ranked t).perm.length_eq

theorem length_shownOf (htop : 1 ≤ top) : (shownOf t top).length = splitPoint t.length top := by
  rw [shownOf, List.length_take, length_ranked, splitPoint_of_pos htop]
  omega

theorem positive_ranked (h : t.Positive) : (ranked t).Positive :=
  fun e he => h e ((ranks_ranked t).perm.mem_iff.1 he)

/-- Others are counted exactly if there are some. -/
theorem lt_length_iff (htop : 1 ≤ top) :
    top < t.length ↔ (leftOf t top).isEmpty = false := by
  rw [leftOf, List.isEmpty_eq_false_iff, ne_eq, List.drop_eq_nil_iff, length_ranked,
    splitPoint_of_pos htop]
  omega

theorem positive_listed (h : t.Positive) (top : Int) : (listed t top).Positive := by
  refine positive_itemsOf ?_
  rw [shownOf_append_leftOf]
  exact positive_ranked h

theorem total_listed (t : Tally) (top : Int) : (listed t top).total = t.total := by
  rw [listed, total_itemsOf, shownOf_append_leftOf, Tally.total_perm (ranks_ranked t).perm]

theorem le_total_of_mem_listed (h : t.Positive) {item : String × Int}
    (hitem : item ∈ listed t top) : item.2 ≤ t.total := by
  rw [← total_listed t top]
  exact (positive_listed h top).le_total hitem

/-- The entries of a report. -/
def entriesOf (t : Tally) (top : Int) : List Entry := (listed t top).map (entryOf t.total)

theorem itemizes_entriesOf (hpos : t.Positive) (htop : 1 ≤ top) :
    Itemizes t top (shownOf t top) (leftOf t top) (entriesOf t top) where
  ranks := by
    rw [shownOf_append_leftOf]
    exact ranks_ranked t
  most := by
    rw [length_shownOf htop, splitPoint_of_pos htop]
    omega
  items := by
    rw [entriesOf, List.map_map]
    exact List.map_id _
  total := by
    rw [entriesOf, List.map_map, ← total_listed t top, Tally.total_eq_sum]
    rfl
  shares := List.forall_mem_map.2 fun item hitem =>
    percentage_eq_shareOf (positive_listed hpos top item hitem) (le_total_of_mem_listed hpos hitem)

theorem make_eq {total : Int} {item : String × Int} (hpos : 0 < item.2) (hle : item.2 ≤ total)
    (hshort : total.natAbs < 10 ^ maxDigits) :
    Entry.make total item.1 item.2 = .ok (entryOf total item) := by
  rw [Entry.make, percentage_eq_shareOf hpos hle, isTooLong_of_part hpos hle hshort]
  rfl

theorem entries_eq (hpos : t.Positive) (htop : 1 ≤ top)
    (hshort : t.total.natAbs < 10 ^ maxDigits) : entries top t = .ok (entriesOf t top) := by
  have hmake : ∀ item ∈ listed t top,
      Entry.make t.total item.1 item.2 = .ok (entryOf t.total item) := fun item hitem =>
    make_eq (positive_listed hpos top item hitem) (le_total_of_mem_listed hpos hitem) hshort
  have hshown : (shownOf t top).mapM (fun item => Entry.make t.total item.1 item.2) =
      .ok ((shownOf t top).map (entryOf t.total)) :=
    mapM_eq_ok_map fun item hitem => hmake item (List.mem_append_left _ hitem)
  rw [entries]
  simp only [length_ranked]
  show ((shownOf t top).mapM (fun item => Entry.make t.total item.1 item.2) >>= fun shown =>
    if top < t.length then
      (Entry.make t.total othersName (leftOf t top).total >>= fun others => .ok (shown ++ [others]))
    else .ok shown) = _
  rw [hshown, ok_bind, entriesOf]
  cases hleft : (leftOf t top).isEmpty with
  | true =>
      rw [if_neg (by rw [lt_length_iff htop, hleft]; decide), listed, itemsOf, hleft, if_pos rfl,
        List.append_nil]
  | false =>
      have hmem : (othersName, (leftOf t top).total) ∈ listed t top := by
        simp [listed, itemsOf, hleft]
      rw [if_pos ((lt_length_iff htop).2 hleft), hmake _ hmem, ok_bind, listed, itemsOf, hleft,
        if_neg Bool.false_ne_true, List.map_append]
      rfl

/-! ## The whole report -/

/-- A report whose lines are given. -/
def page (shown : Nat) (total : Int) (rows categories : List String) : String :=
  String.intercalate "\n"
    (("Top " ++ decimal shown ++ " instructions (total: " ++ grouped total ++ ")") :: "" :: rows
      ++ ["", "  " ++ String.intercalate "  |  " categories])

/-- What a report shows. -/
structure Sheet where
  total : Int
  shown : Tally
  left : Tally
  entries : List Entry
  rows : List (List Entry)
  sections : List Section

namespace Sheet

variable (s : Sheet)

/-- An entry's text. -/
def cell (e : Entry) : String :=
  e.text (greatestLength (s.shown.map Prod.fst))
    (greatestLength (s.shown.map fun item => decimal item.2))

/-- How wide the columns are. -/
def width : Nat := greatestLength (s.entries.map s.cell) + 2

/-- The text of a report. -/
def text : String :=
  page s.shown.length s.total (s.rows.map fun row => rowLine s.width (row.map s.cell))
    (s.sections.map Section.text)

/-- A report shows a tally. -/
structure Shows (t : Tally) (top : Int) : Prop where
  total : s.total = t.total
  itemizes : Itemizes t top s.shown s.left s.entries
  arranges : Arranges s.entries s.rows
  apart : ∀ e ∈ s.entries, (s.cell e).length + 2 ≤ s.width
  classifies : Classifies t s.sections

end Sheet

/-- The report on a tally. -/
def sheetOf (t : Tally) (top : Int) : Sheet where
  total := t.total
  shown := shownOf t top
  left := leftOf t top
  entries := entriesOf t top
  rows := grid (entriesOf t top)
  sections := sectionsOf t

theorem length_le_greatestLength {texts : List String} {s : String} (h : s ∈ texts) :
    s.length ≤ greatestLength texts := by
  have hmax : greatestLength texts = max 0 ((texts.map String.length).max?.getD 0) := by
    rw [greatestLength, ← List.foldl_max, List.foldl_map]
  rw [hmax, Nat.zero_max]
  exact List.le_max?_getD_of_mem (List.mem_map_of_mem h)

theorem endsVisibly_text (nameWidth countWidth : Nat) (e : Entry) :
    EndsVisibly (e.text nameWidth countWidth) := by
  have hends : ∀ s : String, EndsVisibly (s ++ "%)") := fun s =>
    ⟨s.toList ++ ['%'], ')', by rw [String.toList_append, List.append_assoc]; rfl, by decide⟩
  exact hends _

theorem shows_sheetOf (hpos : t.Positive) (htop : 1 ≤ top) : (sheetOf t top).Shows t top where
  total := rfl
  itemizes := itemizes_entriesOf hpos htop
  arranges := arranges_grid _
  apart _ he := Nat.add_le_add_right (length_le_greatestLength (List.mem_map_of_mem he)) 2
  classifies := classifies_sectionsOf hpos

/-- What is done once it is clear that something is shown. -/
theorem statistics_of_shown (hne : t ≠ []) (htop : 1 ≤ top) :
    statistics t top =
      if (t.total :: (shownOf t top).map Prod.snd).any Json.isTooLong then .error .tooLong
      else entries top t >>= fun es => categoryTexts t >>= fun categories =>
        let texts := es.map (sheetOf t top).cell
        .ok (page (splitPoint t.length top) t.total
          ((grid texts).map (gridLine (greatestLength texts + 2))) categories) := by
  have hempty : t.isEmpty = false := List.isEmpty_eq_false_iff.2 hne
  have hlength := List.length_pos_iff.2 hne
  have hk : splitPoint t.length top ≠ 0 := by
    rw [splitPoint_of_pos htop]
    omega
  rw [statistics, hempty]
  simp only [hk, if_false, Bool.false_eq_true]
  rw [shownOf]
  split <;> rfl

theorem statistics_tooLong (hne : t ≠ []) (htop : 1 ≤ top)
    (hlong : 10 ^ maxDigits ≤ t.total.natAbs) : statistics t top = .error .tooLong := by
  have htotal : Json.isTooLong t.total = true := by
    rw [← Bool.not_eq_false, Json.isTooLong_eq_false_iff]
    exact Nat.not_lt.2 hlong
  rw [statistics_of_shown hne htop, List.any_cons, htotal, Bool.true_or, if_pos rfl]

theorem not_any_isTooLong (hpos : t.Positive) (hshort : t.total.natAbs < 10 ^ maxDigits) :
    (t.total :: (shownOf t top).map Prod.snd).any Json.isTooLong = false := by
  rw [List.any_eq_false]
  refine List.forall_mem_cons.2 ⟨?_, List.forall_mem_map.2 fun item hitem => ?_⟩
  · rw [Json.isTooLong_eq_false_iff.2 hshort]
    exact Bool.false_ne_true
  · have hmem : item ∈ listed t top := List.mem_append_left _ hitem
    rw [isTooLong_of_part (positive_listed hpos top item hmem) (le_total_of_mem_listed hpos hmem)
      hshort]
    exact Bool.false_ne_true

/-- The lines of the grid are those of the sheet. -/
theorem map_gridLine (t : Tally) (top : Int) (width : Nat) :
    (grid ((entriesOf t top).map (sheetOf t top).cell)).map (gridLine width) =
      (sheetOf t top).rows.map fun row => rowLine width (row.map (sheetOf t top).cell) := by
  rw [grid_map, List.map_map]
  refine List.map_congr_left fun row hrow => gridLine_eq ?_ ?_ width
  · exact mt List.map_eq_nil_iff.1 ((arranges_grid _).filled row hrow)
  · exact List.forall_mem_map.2 fun e _ => endsVisibly_text _ _ e

theorem statistics_eq (hne : t ≠ []) (hpos : t.Positive) (htop : 1 ≤ top)
    (hshort : t.total.natAbs < 10 ^ maxDigits) :
    statistics t top = .ok (sheetOf t top).text := by
  rw [statistics_of_shown hne htop, not_any_isTooLong hpos hshort, if_neg Bool.false_ne_true,
    entries_eq hpos htop hshort, ok_bind, categoryTexts_eq hpos hshort, ok_bind]
  simp only [map_gridLine]
  rw [← length_shownOf htop]
  rfl

/-- A tally of positive counts is reported whole, unless its total is too long to be written. -/
theorem statistics_lose_nothing (hne : t ≠ []) (hpos : t.Positive) (htop : 1 ≤ top) :
    (10 ^ maxDigits ≤ t.total.natAbs → statistics t top = .error .tooLong) ∧
    (t.total.natAbs < 10 ^ maxDigits →
      ∃ s : Sheet, statistics t top = .ok s.text ∧ s.Shows t top) :=
  ⟨statistics_tooLong hne htop, fun hshort =>
    ⟨_, statistics_eq hne hpos htop hshort, shows_sheetOf hpos htop⟩⟩

/-- Two names are shown by themselves, and two are left out. -/
theorem statistics_lose_nothing_top_two :
    Tally.Positive [("JP", 3), ("LD", 5), ("CLS", 3), ("DRW", 1)] ∧
      ∃ s : Sheet, statistics [("JP", 3), ("LD", 5), ("CLS", 3), ("DRW", 1)] 2 = .ok s.text ∧
        s.Shows [("JP", 3), ("LD", 5), ("CLS", 3), ("DRW", 1)] 2 :=
  ⟨by decide, (statistics_lose_nothing (List.cons_ne_nil _ _) (by decide) (by decide)).2
    (by decide +kernel)⟩

/-- Both counts of this tally can be written, but their sum has a digit too many. -/
theorem statistics_of_long_total :
    (Tally.names [("JP", 10 ^ maxDigits - 1), ("LD", 1)]).Nodup ∧
      Tally.Positive [("JP", 10 ^ maxDigits - 1), ("LD", 1)] ∧
      statistics [("JP", 10 ^ maxDigits - 1), ("LD", 1)] 2 = .error .tooLong :=
  ⟨by decide +kernel, by decide +kernel,
    statistics_tooLong (List.cons_ne_nil _ _) (by decide) (by decide +kernel)⟩

end ChipEight.Report
