import ChipEight.Display
import Mathlib.Algebra.BigOperators.Group.Finset.Piecewise
import Mathlib.Algebra.BigOperators.Group.Finset.Sigma
import Mathlib.Algebra.Ring.Parity
import Mathlib.Data.List.Induction

/-!
# What was drawn adds up

Drawing turns cells over, and nothing else. So a cell forgets everything about the
sprites that touched it but whether they were odd in number: not the order, not two
that were the same, not how often a sprite goes around the edges before it gets there.
A tall sprite goes around by itself and may turn a cell over more than once.

`isOn_turnAll` is that observation for the list of cells that a drawing goes through,
and `count_spriteCells` says how often a cell is in that list, in terms of the sprite's
bits alone. Everything else counts. A clear starts the count again from nothing.
-/

namespace ChipEight

/-- A sprite with the place of its upper left corner. -/
structure Sprite where
  x : Int
  y : Int
  rows : List UInt8
  deriving DecidableEq

/-- What can be done to a display. -/
inductive Stroke where
  | clear
  | draw (s : Sprite)
  deriving DecidableEq

namespace Sprite

/-- The bit at a row and a column of the sprite is set and lands on a cell. -/
def Lands (s : Sprite) (column row r c : Nat) : Prop :=
  (s.rows.getD r 0).toNat.testBit (7 - c) = true ∧ (s.x + c) % 64 = column ∧
    (s.y + r) % 32 = row

instance (s : Sprite) (column row r c : Nat) : Decidable (s.Lands column row r c) :=
  inferInstanceAs (Decidable (_ ∧ _))

/-- How many set bits of the sprite land on a cell. -/
def hits (s : Sprite) (column row : Nat) : Nat :=
  ((Finset.range s.rows.length ×ˢ Finset.range 8).filter fun b =>
    s.Lands column row b.1 b.2).card

/-- The sprite so many screens further to the right and down. -/
def around (s : Sprite) (right down : Int) : Sprite :=
  { s with x := s.x + 64 * right, y := s.y + 32 * down }

/-- How many set bits of some sprites land on a cell. -/
def landed (sprites : List Sprite) (column row : Nat) : Nat :=
  (sprites.map fun s => s.hits column row).sum

/-! ## Counting bits -/

theorem hits_eq_sum (s : Sprite) (column row : Nat) :
    s.hits column row = ∑ r ∈ Finset.range s.rows.length, ∑ c ∈ Finset.range 8,
      if s.Lands column row r c then 1 else 0 := by
  rw [hits, Finset.card_filter, Finset.sum_product]

theorem hits_row (x y : Int) (b : UInt8) (column row : Nat) :
    hits ⟨x, y, [b]⟩ column row =
      ∑ c ∈ Finset.range 8, if b.toNat.testBit (7 - c) = true ∧
        (x + c) % 64 = column ∧ y % 32 = row then 1 else 0 := by
  rw [hits_eq_sum, List.length_singleton, Finset.sum_range_one]
  simp [Lands]

/-- The first row of a sprite stands at the top, and the others one further down. -/
theorem hits_cons (x y : Int) (b : UInt8) (rest : List UInt8) (column row : Nat) :
    hits ⟨x, y, b :: rest⟩ column row =
      hits ⟨x, y, [b]⟩ column row + hits ⟨x, y + 1, rest⟩ column row := by
  rw [hits_eq_sum, hits_row, hits_eq_sum, List.length_cons,
    Finset.sum_range_succ' _ rest.length, Nat.add_comm]
  congr 1
  · simp [Lands]
  · refine Finset.sum_congr rfl fun r _ => Finset.sum_congr rfl fun c _ => ?_
    have hrow : (y + 1 + r : Int) = y + (r + 1 : Nat) := by omega
    simp only [Lands, hrow, List.getD_cons_succ]

theorem landed_perm {sprites sprites' : List Sprite} (h : sprites.Perm sprites')
    (column row : Nat) :
    landed sprites column row = landed sprites' column row :=
  (h.map _).sum_eq

theorem odd_landed_twice (s : Sprite) (between : List Sprite) (column row : Nat) :
    Odd (landed (s :: between ++ [s]) column row) ↔
      Odd (landed between column row) := by
  have hsum : landed (s :: between ++ [s]) column row =
      landed between column row + 2 * s.hits column row := by
    simp only [landed, List.map_append, List.map_cons, List.map_nil, List.sum_append,
      List.sum_cons, List.sum_nil]
    omega
  rw [hsum, Nat.odd_add, iff_true_right (even_two_mul _)]

theorem hits_around (s : Sprite) (right down : Int) (column row : Nat) :
    (s.around right down).hits column row = s.hits column row := by
  have hlands : ∀ r c, (s.around right down).Lands column row r c ↔
      s.Lands column row r c := by
    intro r c
    have hx : (s.x + 64 * right + c) % 64 = (s.x + c) % 64 := by omega
    have hy : (s.y + 32 * down + r) % 32 = (s.y + r) % 32 := by omega
    rw [Lands, Lands, around, hx, hy]
  rw [hits, hits]
  simp only [hlands]
  rfl

end Sprite

namespace Display

/-- The display after one thing was done to it. -/
def stroke (d : Display) : Stroke → Display
  | .clear => .blank
  | .draw s => (d.drawSprite s.x s.y s.rows).1

/-- The display after several things were done to it. -/
def paint (d : Display) (strokes : List Stroke) : Display := strokes.foldl stroke d

/-- The sprites that were drawn since the last clear, or at all if there was none. -/
def sinceClear (strokes : List Stroke) : List Sprite :=
  strokes.foldl (fun sprites s =>
    match s with
    | .clear => []
    | .draw s => sprites ++ [s]) []

/-- What those sprites were drawn upon. -/
def ground (d : Display) (strokes : List Stroke) : Display :=
  if .clear ∈ strokes then .blank else d

/-! ## Turning cells over -/

theorem ext_isOn {d d' : Display} (h : ∀ i < 2048, d.isOn i = d'.isOn i) : d = d' := by
  obtain ⟨cells⟩ := d
  obtain ⟨cells'⟩ := d'
  congr 1
  apply Vector.ext
  intro i hi
  have := h i hi
  simpa [isOn, hi] using this

theorem isOn_turn (d : Display) (i : Nat) {j : Nat} (hj : j < 2048) :
    (d.turn i).isOn j = (d.isOn j ^^ decide (i = j)) := by
  by_cases h : i = j
  · subst h
    simp [turn, isOn, hj]
  · simp [turn, isOn, hj, h]

/-- A cell is turned over as often as it is listed. -/
theorem isOn_turnAll (d : Display) (hit : Bool) (cells : List Nat) {j : Nat}
    (hj : j < 2048) :
    (d.turnAll hit cells).1.isOn j = (d.isOn j ^^ decide (Odd (cells.count j))) := by
  induction cells generalizing d hit with
  | nil => simp [turnAll]
  | cons i rest ih =>
      rw [turnAll, ih, isOn_turn d i hj, Bool.xor_assoc, List.count_cons]
      congr 1
      by_cases h : i = j <;> by_cases hodd : Odd (rest.count j) <;>
        simp [h, hodd, Nat.odd_add_one]

/-! ## The cells of a sprite -/

theorem cellAt_eq_iff (x y : Int) {column : Nat} (hc : column < 64) (row : Nat) :
    cellAt x y = row * 64 + column ↔ x % 64 = column ∧ y % 32 = row := by
  rw [cellAt]
  omega

theorem countP_range (p : Nat → Bool) (n : Nat) :
    (List.range n).countP p = ∑ k ∈ Finset.range n, if p k then 1 else 0 := by
  induction n with
  | zero => rfl
  | succ n ih =>
      rw [List.range_succ, List.countP_append, ih, Finset.sum_range_succ, List.countP_singleton]

theorem count_rowCells (x y : Int) (b : UInt8) {column row : Nat} (hc : column < 64) :
    (rowCells x y b).count (row * 64 + column) = Sprite.hits ⟨x, y, [b]⟩ column row := by
  rw [rowCells, setColumns, List.count, List.countP_map, List.countP_filter, countP_range,
    Sprite.hits_row]
  refine Finset.sum_congr rfl fun c _ => ?_
  simp [cellAt_eq_iff (x + c) y hc row, and_comm, and_assoc]

/-- The cells that a sprite turns over are those on which its set bits land. -/
theorem count_spriteCells (x y : Int) (rows : List UInt8) {column row : Nat}
    (hc : column < 64) :
    (spriteCells x y rows).count (row * 64 + column) = Sprite.hits ⟨x, y, rows⟩ column row := by
  induction rows generalizing y with
  | nil => rfl
  | cons b rest ih =>
      rw [spriteCells, List.count_append, count_rowCells x y b hc, ih,
        ← Sprite.hits_cons x y b rest]

/-! ## A series of drawings -/

theorem paint_append (d : Display) (strokes more : List Stroke) :
    d.paint (strokes ++ more) = (d.paint strokes).paint more :=
  List.foldl_append

theorem paint_concat (d : Display) (strokes : List Stroke) (s : Stroke) :
    d.paint (strokes ++ [s]) = (d.paint strokes).stroke s :=
  paint_append d strokes [s]

theorem isOn_stroke_draw (d : Display) (s : Sprite) {column row : Nat} (hc : column < 64)
    (hr : row < 32) :
    (d.stroke (.draw s)).isOn (row * 64 + column) =
      (d.isOn (row * 64 + column) ^^ decide (Odd (s.hits column row))) := by
  rw [stroke, drawSprite, isOn_turnAll d false _ (by omega), count_spriteCells _ _ _ hc]

theorem xor_odd_add (m n : Nat) :
    (decide (Odd m) ^^ decide (Odd n)) = decide (Odd (m + n)) := by
  by_cases hm : Odd m <;> by_cases hn : Odd n <;>
    simp [hm, hn, Nat.odd_add, ← Nat.not_odd_iff_even]

/-- A cell after any series of drawings and clears. -/
theorem isOn_paint (d : Display) (strokes : List Stroke) {column row : Nat}
    (hc : column < 64) (hr : row < 32) :
    (d.paint strokes).isOn (row * 64 + column) =
      ((d.ground strokes).isOn (row * 64 + column) ^^
        decide (Odd (Sprite.landed (sinceClear strokes) column row))) := by
  induction strokes using List.reverseRecOn with
  | nil => simp [paint, ground, sinceClear, Sprite.landed]
  | append_singleton strokes s ih =>
      rw [paint_concat]
      cases s with
      | clear =>
          simp [stroke, ground, sinceClear, Sprite.landed]
      | draw s =>
          have hground : d.ground (strokes ++ [.draw s]) = d.ground strokes := by
            simp [ground]
          have hsince : sinceClear (strokes ++ [.draw s]) = sinceClear strokes ++ [s] := by
            simp [sinceClear]
          have hlanded : Sprite.landed (sinceClear strokes ++ [s]) column row =
              Sprite.landed (sinceClear strokes) column row + s.hits column row := by
            simp [Sprite.landed]
          rw [isOn_stroke_draw _ s hc hr, ih, hground, hsince, hlanded, Bool.xor_assoc,
            xor_odd_add]

/-! ## What makes no difference -/

theorem ground_map_draw (d : Display) (sprites : List Sprite) :
    d.ground (sprites.map .draw) = d := by
  simp [ground]

theorem sinceClear_map_draw (sprites : List Sprite) :
    sinceClear (sprites.map .draw) = sprites := by
  induction sprites using List.reverseRecOn with
  | nil => rfl
  | append_singleton sprites s ih => simpa [sinceClear] using ih

/-- Without a clear between them, drawings that land on every cell equally often, but for
multiples of two, come to the same. -/
theorem paint_map_draw_congr {sprites sprites' : List Sprite}
    (h : ∀ column row, Odd (Sprite.landed sprites column row) ↔
      Odd (Sprite.landed sprites' column row)) (d : Display) :
    d.paint (sprites.map .draw) = d.paint (sprites'.map .draw) := by
  apply ext_isOn
  intro i hi
  obtain ⟨column, row, hc, hr, rfl⟩ : ∃ column row, column < 64 ∧ row < 32 ∧
      i = row * 64 + column := ⟨i % 64, i / 64, by omega, by omega, by omega⟩
  rw [isOn_paint d _ hc hr, isOn_paint d _ hc hr]
  simp only [ground_map_draw, sinceClear_map_draw, h]

/-- The same in the midst of other strokes. -/
theorem paint_within_congr {sprites sprites' : List Sprite}
    (h : ∀ column row, Odd (Sprite.landed sprites column row) ↔
      Odd (Sprite.landed sprites' column row)) (d : Display) (before after : List Stroke) :
    d.paint (before ++ sprites.map .draw ++ after) =
      d.paint (before ++ sprites'.map .draw ++ after) := by
  rw [paint_append, paint_append, paint_map_draw_congr h, paint_append, paint_append]

/-- What a display comes to. A cell is what it was when the last clear had been carried
out, turned over as often as a set bit of a sprite has landed on it since. So between two
clears sprites may be drawn in any order, one that is drawn twice need not be drawn, and
one may as well be drawn whole screens away. -/
structure AddsUp (d : Display) : Prop where
  cell : ∀ strokes, ∀ column < 64, ∀ row < 32,
    (d.paint strokes).isOn (row * 64 + column) =
      ((d.ground strokes).isOn (row * 64 + column) ^^
        decide (Odd (Sprite.landed (sinceClear strokes) column row)))
  reordered : ∀ before after, ∀ sprites sprites' : List Sprite, sprites.Perm sprites' →
    d.paint (before ++ sprites.map .draw ++ after) =
      d.paint (before ++ sprites'.map .draw ++ after)
  twice : ∀ before after s, ∀ between : List Sprite,
    d.paint (before ++ .draw s :: between.map .draw ++ .draw s :: after) =
      d.paint (before ++ between.map .draw ++ after)
  around : ∀ before after, ∀ s : Sprite, ∀ right down,
    d.paint (before ++ .draw (s.around right down) :: after) =
      d.paint (before ++ .draw s :: after)

/-- Whatever a display shows, drawing adds up on it. -/
theorem drawing_adds_up (d : Display) : d.AddsUp where
  cell strokes column hc row hr := d.isOn_paint strokes hc hr
  reordered before after sprites sprites' h := by
    refine paint_within_congr (fun column row => ?_) d before after
    rw [Sprite.landed_perm h]
  twice before after s between := by
    have h := paint_within_congr (Sprite.odd_landed_twice s between) d before after
    simpa using h
  around before after s right down := by
    have hlanded : ∀ column row, Odd (Sprite.landed [s.around right down] column row) ↔
        Odd (Sprite.landed [s] column row) := by
      simp [Sprite.landed, Sprite.hits_around]
    have h := paint_within_congr hlanded d before after
    simpa using h

end Display

end ChipEight
