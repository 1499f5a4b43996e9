import ChipEight.Report.Statistics
import Mathlib.Data.List.Perm.Basic

/-!
# Columns that are filled one after the other

A report on `n` entries has a third of `n` rows, rounded up, and the entry in a row and a
column is the one at `column * rows + row`. A row leaves out the columns that have no entry
for it. These are the last ones, so what a row has at some place is in the column of that
number, and reading the rows' first places, then their second places and so on goes through
all entries in order.
-/

namespace ChipEight.Report

open List

variable {α β : Type}

/-! ## Places -/

/-- What is found at the places from the first one on. -/
theorem filterMap_range_getElem? (xs : List α) (n : Nat) :
    ((range n).filterMap fun i => xs[i]?) = xs.take n := by
  induction n with
  | zero => rfl
  | succ n ih =>
      rw [range_succ, filterMap_append, ih, take_add_one]
      cases h : xs[n]? <;> simp [h]

/-- Where nothing follows a gap, what is found stands at its own place. -/
theorem getElem?_filterMap_range {f : Nat → Option α}
    (hf : ∀ i j, i ≤ j → f i = none → f j = none) (n c : Nat) :
    ((range n).filterMap f)[c]? = if c < n then f c else none := by
  induction n generalizing f c with
  | zero => simp
  | succ n ih =>
      rw [range_succ_eq_map]
      cases h : f 0 with
      | none =>
          have hnone : ∀ j, f j = none := fun j => hf 0 j (Nat.zero_le j) h
          simp [hnone]
      | some a =>
          rw [filterMap_cons_some h, filterMap_map]
          cases c with
          | zero => simp [h]
          | succ c =>
              have hstep := ih (f := f ∘ Nat.succ)
                (fun i j hij => hf (i + 1) (j + 1) (Nat.succ_le_succ hij)) c
              simpa using hstep

/-- Consecutive pieces of one length make up a beginning. -/
theorem flatMap_range_take_drop (xs : List α) (k n : Nat) :
    ((range n).flatMap fun c => (xs.drop (c * k)).take k) = xs.take (n * k) := by
  induction n with
  | zero => simp
  | succ n ih =>
      rw [range_succ, flatMap_append, ih, flatMap_singleton, Nat.succ_mul, take_add]

/-! ## Rows and columns -/

/-- What stands in a column, from the first row to the last. -/
def column (rows : List (List α)) (c : Nat) : List α := rows.filterMap (·[c]?)

/-- Columns have what rows have. -/
theorem flatMap_column_perm {rows : List (List α)} {n : Nat}
    (h : ∀ row ∈ rows, row.length ≤ n) :
    ((range n).flatMap (column rows)).Perm rows.flatten := by
  induction rows with
  | nil => simp [column]
  | cons row rows ih =>
      have hcolumn : column (row :: rows) = fun c => row[c]?.toList ++ column rows c := by
        funext c
        rw [column, filterMap_cons]
        cases row[c]? <;> rfl
      have hrow : ((range n).flatMap fun c => row[c]?.toList) = row := by
        rw [← filterMap_eq_flatMap_toList, filterMap_range_getElem?,
          take_of_length_le (h row mem_cons_self)]
      rw [hcolumn, flatten_cons]
      refine (flatMap_append_perm _ _ _).symm.trans ?_
      rw [hrow]
      exact (ih fun r hr => h r (mem_cons_of_mem row hr)).append_left row

/-- The rows have the cells in them, column by column. -/
structure Arranges (cells : List α) (rows : List (List α)) : Prop where
  once : rows.flatten.Perm cells
  down : (range columns).flatMap (column rows) = cells
  short : ∀ row ∈ rows, row.length ≤ columns
  filled : ∀ row ∈ rows, row ≠ []

variable (cells : List α)

theorem le_rowCount (n : Nat) : n ≤ columns * rowCount n := by
  simp only [columns, rowCount]
  omega

theorem getElem?_gridRow (r c : Nat) :
    (gridRow cells r)[c]? =
      if c < columns then cells[c * rowCount cells.length + r]? else none := by
  refine getElem?_filterMap_range (fun i j hij hi => ?_) columns c
  rw [getElem?_eq_none_iff] at hi ⊢
  have := Nat.mul_le_mul_right (rowCount cells.length) hij
  omega

theorem length_gridRow_le (r : Nat) : (gridRow cells r).length ≤ columns := by
  rw [← getElem?_eq_none_iff, getElem?_gridRow, if_neg (Nat.lt_irrefl _)]

theorem column_grid {c : Nat} (hc : c < columns) :
    column (grid cells) c =
      (cells.drop (c * rowCount cells.length)).take (rowCount cells.length) := by
  rw [column, grid, filterMap_map, ← filterMap_range_getElem?]
  refine filterMap_congr fun r _ => ?_
  rw [Function.comp_apply, getElem?_gridRow, if_pos hc, getElem?_drop]

theorem arranges_grid : Arranges cells (grid cells) := by
  have hdown : (range columns).flatMap (column (grid cells)) = cells := by
    rw [flatMap_congr fun c hc => column_grid cells (mem_range.1 hc), flatMap_range_take_drop,
      take_of_length_le (le_rowCount _)]
  have hshort : ∀ row ∈ grid cells, row.length ≤ columns := by
    intro row hrow
    obtain ⟨r, -, rfl⟩ := mem_map.1 hrow
    exact length_gridRow_le cells r
  refine ⟨?_, hdown, hshort, ?_⟩
  · exact (flatMap_column_perm hshort).symm.trans (.of_eq hdown)
  · intro row hrow hnil
    obtain ⟨r, hr, rfl⟩ := mem_map.1 hrow
    -- the first column has an entry in every row
    have hfirst := getElem?_gridRow cells r 0
    rw [hnil, if_pos (by decide), Nat.zero_mul, Nat.zero_add] at hfirst
    have hle : cells.length ≤ r := getElem?_eq_none_iff.1 hfirst.symm
    have hlt : r < rowCount cells.length := mem_range.1 hr
    simp only [rowCount, columns] at hlt
    omega

/-- What is done with the cells can be done before they are arranged. -/
theorem grid_map (f : α → β) : grid (cells.map f) = (grid cells).map (List.map f) := by
  rw [grid, grid, length_map, map_map]
  refine map_congr_left fun r _ => ?_
  rw [Function.comp_apply, gridRow, gridRow, length_map, map_filterMap]
  exact filterMap_congr fun c _ => getElem?_map

/-! ## Lines -/

/-- A row of texts in columns of some width. The last text is not filled up. -/
def rowLine (width : Nat) (cells : List String) : String :=
  "  " ++ String.join (cells.dropLast.map (Text.padRight width)) ++ cells.getLast?.getD ""

/-- A text that does not end in a blank. -/
def EndsVisibly (s : String) : Prop := ∃ front last, s.toList = front ++ [last] ∧ last ≠ ' '

/-- What is cut off is the filling behind the last text. -/
theorem trimEnd_append_padRight {s : String} (hs : EndsVisibly s) (before : String)
    (width : Nat) : trimEnd (before ++ Text.padRight width s) = before ++ s := by
  obtain ⟨front, last, hs, hlast⟩ := hs
  have hfilled : (before ++ Text.padRight width s).toList =
      before.toList ++ front ++ [last] ++ replicate (width - s.length) ' ' := by
    simp only [Text.padRight, Text.filler, String.toList_append, String.toList_ofList, hs,
      append_assoc]
  have hstop : (last == ' ') = false := beq_false_of_ne hlast
  rw [← String.toList_inj, trimEnd, hfilled, String.toList_ofList, String.toList_append, hs,
    reverse_append, reverse_replicate, dropWhile_append, dropWhile_replicate]
  simp [hstop]

theorem gridLine_eq {cells : List String} (hne : cells ≠ []) (hends : ∀ s ∈ cells, EndsVisibly s)
    (width : Nat) : gridLine width cells = rowLine width cells := by
  obtain ⟨init, s, rfl⟩ := (eq_nil_or_concat cells).resolve_left hne
  rw [concat_eq_append] at hends ⊢
  have hjoin : String.join ((init ++ [s]).map (Text.padRight width)) =
      String.join (init.map (Text.padRight width)) ++ Text.padRight width s := by
    simp
  rw [gridLine, hjoin, trimEnd_append_padRight (hends s (by simp)), rowLine, dropLast_concat,
    getLast?_concat, Option.getD_some, String.append_assoc]

end ChipEight.Report
