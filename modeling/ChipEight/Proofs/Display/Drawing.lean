import ChipEight.Proofs.Display
import Mathlib.Data.List.Nodup

/-!
# What one drawing does

A drawing goes through its cells one by one, turns each over where it stands and notes a
collision on the way. For a sprite of at most thirty-two rows this comes to the same as
turning them all over at once: such a sprite does not go around the display far enough to
meet itself, so no cell is listed twice, and a cell is found in the state it had before
the drawing began.

That makes the drawing a formula. Which bit of the sprite stands on a cell is a matter of
two remainders, whatever the corner is, and what is lit afterwards, and whether anything was
turned off, is read off the bits and the display as it was.
-/

namespace ChipEight

namespace Sprite

/-- The row of the sprite that stands on a row of the display, going down and around. -/
def rowOn (s : Sprite) (row : Nat) : Nat := ((row - s.y) % 32).toNat

/-- The column of the sprite that stands on a column of the display. -/
def columnOn (s : Sprite) (column : Nat) : Nat := ((column - s.x) % 64).toNat

/-- The sprite has a set bit on a cell. -/
def Covers (s : Sprite) (column row : Nat) : Prop :=
  s.rowOn row < s.rows.length ∧ s.columnOn column < 8 ∧
    (s.rows.getD (s.rowOn row) 0).toNat.testBit (7 - s.columnOn column) = true

instance (s : Sprite) (column row : Nat) : Decidable (s.Covers column row) :=
  inferInstanceAs (Decidable (_ ∧ _))

/-- The number of set bits. -/
def bitCount (s : Sprite) : Nat :=
  (s.rows.map fun b => (List.range 8).countP fun c => b.toNat.testBit (7 - c)).sum

/-- A bit lands on a cell only if it is the one that stands there. -/
theorem lands_iff {s : Sprite} (h : s.rows.length ≤ 32) {column row r c : Nat}
    (hc : column < 64) (hr : row < 32) :
    (r < s.rows.length ∧ c < 8) ∧ s.Lands column row r c ↔
      s.Covers column row ∧ r = s.rowOn row ∧ c = s.columnOn column := by
  have hplace : (r < s.rows.length ∧ c < 8) ∧ (s.x + c) % 64 = column ∧ (s.y + r) % 32 = row ↔
      (s.rowOn row < s.rows.length ∧ s.columnOn column < 8) ∧ r = s.rowOn row ∧
        c = s.columnOn column := by
    rw [rowOn, columnOn]
    omega
  constructor
  · rintro ⟨hrange, hbit, hland⟩
    obtain ⟨⟨hrow, hcolumn⟩, rfl, rfl⟩ := hplace.1 ⟨hrange, hland⟩
    exact ⟨⟨hrow, hcolumn, hbit⟩, rfl, rfl⟩
  · rintro ⟨⟨hrow, hcolumn, hbit⟩, rfl, rfl⟩
    obtain ⟨hrange, hland⟩ := hplace.2 ⟨⟨hrow, hcolumn⟩, rfl, rfl⟩
    exact ⟨hrange, hbit, hland⟩

/-- A sprite that is not higher than the display lands on a cell once at most. -/
theorem hits_of_short {s : Sprite} (h : s.rows.length ≤ 32) {column row : Nat}
    (hc : column < 64) (hr : row < 32) :
    s.hits column row = if s.Covers column row then 1 else 0 := by
  have hset : ((Finset.range s.rows.length ×ˢ Finset.range 8).filter fun b =>
      s.Lands column row b.1 b.2) =
      if s.Covers column row then {(s.rowOn row, s.columnOn column)} else ∅ := by
    ext ⟨r, c⟩
    rw [Finset.mem_filter, Finset.mem_product, Finset.mem_range, Finset.mem_range,
      lands_iff h hc hr]
    split <;> simp_all
  rw [hits, hset]
  split <;> rfl

end Sprite

namespace Display

/-! ## The cells of a short sprite -/

theorem lt_of_mem_spriteCells {x y : Int} {rows : List UInt8} {i : Nat}
    (h : i ∈ spriteCells x y rows) : i < 2048 := by
  induction rows generalizing y with
  | nil => cases h
  | cons b rest ih =>
      rcases List.mem_append.1 h with h | h
      · obtain ⟨c, -, rfl⟩ := List.mem_map.1 h
        exact cellAt_lt _ _
      · exact ih h

theorem length_spriteCells (s : Sprite) :
    (spriteCells s.x s.y s.rows).length = s.bitCount := by
  obtain ⟨x, y, rows⟩ := s
  induction rows generalizing y with
  | nil => rfl
  | cons b rest ih =>
      simp only [Sprite.bitCount, spriteCells, List.length_append, List.map_cons,
        List.sum_cons] at ih ⊢
      rw [ih, rowCells, setColumns, List.length_map, List.countP_eq_length_filter]

theorem exists_place {i : Nat} (h : i < 2048) :
    ∃ column < 64, ∃ row < 32, i = row * 64 + column :=
  ⟨i % 64, by omega, i / 64, by omega, by omega⟩

theorem count_spriteCells_of_short {s : Sprite} (h : s.rows.length ≤ 32) {column row : Nat}
    (hc : column < 64) (hr : row < 32) :
    (spriteCells s.x s.y s.rows).count (row * 64 + column) =
      if s.Covers column row then 1 else 0 := by
  rw [count_spriteCells _ _ _ hc, Sprite.hits_of_short h hc hr]

theorem mem_spriteCells_iff {s : Sprite} (h : s.rows.length ≤ 32) {column row : Nat}
    (hc : column < 64) (hr : row < 32) :
    row * 64 + column ∈ spriteCells s.x s.y s.rows ↔ s.Covers column row := by
  rw [← List.count_pos_iff, count_spriteCells_of_short h hc hr]
  split <;> simp_all

/-- A short sprite does not turn a cell over twice. -/
theorem nodup_spriteCells {s : Sprite} (h : s.rows.length ≤ 32) :
    (spriteCells s.x s.y s.rows).Nodup := by
  rw [List.nodup_iff_count_le_one]
  intro i
  by_cases hi : i ∈ spriteCells s.x s.y s.rows
  · obtain ⟨column, hc, row, hr, rfl⟩ := exists_place (lt_of_mem_spriteCells hi)
    rw [count_spriteCells_of_short h hc hr]
    split <;> omega
  · rw [List.count_eq_zero_of_not_mem hi]
    exact Nat.zero_le 1

/-- One row more, and a sprite meets itself. -/
example : ¬(spriteCells 0 0 (List.replicate 33 0x80)).Nodup := by decide +kernel

/-! ## Turning different cells over -/

theorem isOn_turn_of_ne (d : Display) {i j : Nat} (h : i ≠ j) :
    (d.turn i).isOn j = d.isOn j := by
  simp [turn, isOn, h]

/-- Of different cells, each is found as it was before the first of them was turned over. -/
theorem hit_turnAll (d : Display) (hit : Bool) {cells : List Nat} (h : cells.Nodup) :
    (d.turnAll hit cells).2 = (hit || cells.any d.isOn) := by
  induction cells generalizing d hit with
  | nil => simp [turnAll]
  | cons i rest ih =>
      obtain ⟨hi, hrest⟩ := List.nodup_cons.1 h
      have hsame : rest.any (d.turn i).isOn = rest.any d.isOn := by
        rw [Bool.eq_iff_iff, List.any_eq_true, List.any_eq_true]
        refine exists_congr fun j => and_congr_right fun hj => ?_
        rw [isOn_turn_of_ne d (ne_of_mem_of_not_mem hj hi).symm]
      rw [turnAll, ih _ _ hrest, hsame, List.any_cons, Bool.or_assoc]

/-- A cell that is turned over counts one more, or one less where it was on. -/
theorem litCount_turn (d : Display) {i : Nat} (h : i < 2048) :
    (d.turn i).litCount + 2 * (if d.isOn i then 1 else 0) = d.litCount + 1 := by
  have hcell : d.isOn i = d.cells[i] := by simp [isOn, h]
  have hlen : i < d.cells.toList.length := by simpa using h
  rw [litCount, litCount, turn, hcell, Vector.toList_setIfInBounds, List.count_set hlen]
  simp only [Vector.getElem_toList]
  cases hon : d.cells[i] with
  | false => simp
  | true =>
      have hpos : 0 < d.cells.toList.count true :=
        List.count_pos_iff.2 (hon ▸ by simp)
      show d.cells.toList.count true - 1 + 0 + 2 * 1 = d.cells.toList.count true + 1
      omega

/-- Cells that were off before come on, and those that were on go off. -/
theorem litCount_turnAll (d : Display) (hit : Bool) {cells : List Nat} (h : cells.Nodup)
    (hlt : ∀ i ∈ cells, i < 2048) :
    (d.turnAll hit cells).1.litCount + 2 * cells.countP d.isOn =
      d.litCount + cells.length := by
  induction cells generalizing d hit with
  | nil => simp [turnAll]
  | cons i rest ih =>
      obtain ⟨hi, hrest⟩ := List.nodup_cons.1 h
      have hsame : rest.countP (d.turn i).isOn = rest.countP d.isOn :=
        List.countP_congr fun j hj => by
          rw [isOn_turn_of_ne d (ne_of_mem_of_not_mem hj hi).symm]
      have hturn := litCount_turn d (hlt i List.mem_cons_self)
      have htail := ih (d.turn i) (hit || d.isOn i) hrest fun j hj =>
        hlt j (List.mem_cons_of_mem i hj)
      rw [hsame] at htail
      rw [turnAll, List.countP_cons, List.length_cons]
      omega

/-! ## The drawing of a short sprite -/

/-- How many of the cells that a sprite covers are on. -/
def struckCount (d : Display) (s : Sprite) : Nat :=
  (List.range 2048).countP fun i => decide (s.Covers (i % 64) (i / 64)) && d.isOn i

theorem countP_spriteCells {s : Sprite} (h : s.rows.length ≤ 32) (d : Display) :
    (spriteCells s.x s.y s.rows).countP d.isOn = d.struckCount s := by
  rw [struckCount, List.countP_eq_length_filter, List.countP_eq_length_filter]
  refine List.Perm.length_eq ?_
  rw [List.perm_ext_iff_of_nodup ((nodup_spriteCells h).filter _) (List.nodup_range.filter _)]
  intro i
  rw [List.mem_filter, List.mem_filter, List.mem_range, Bool.and_eq_true, decide_eq_true_iff]
  have hplace : i < 2048 → (i ∈ spriteCells s.x s.y s.rows ↔ s.Covers (i % 64) (i / 64)) := by
    intro hi
    rw [← mem_spriteCells_iff h (by omega) (by omega), Nat.div_add_mod']
  constructor
  · rintro ⟨hmem, hon⟩
    have hi := lt_of_mem_spriteCells hmem
    exact ⟨hi, (hplace hi).1 hmem, hon⟩
  · rintro ⟨hi, hcovers, hon⟩
    exact ⟨(hplace hi).2 hcovers, hon⟩

/-- What the drawing of a sprite comes to: the display after it and its answer, in terms of
the display before. -/
structure Draws (d : Display) (s : Sprite) (after : Display) (hit : Bool) : Prop where
  cell : ∀ column < 64, ∀ row < 32, after.isOn (row * 64 + column) =
    (d.isOn (row * 64 + column) ^^ decide (s.Covers column row))
  hit : hit = true ↔ ∃ column < 64, ∃ row < 32, s.Covers column row ∧
    d.isOn (row * 64 + column) = true
  lit : (after.litCount : Int) = d.litCount + s.bitCount - 2 * d.struckCount s

theorem draws_of_short {s : Sprite} (h : s.rows.length ≤ 32) (d : Display) :
    d.Draws s (d.drawSprite s.x s.y s.rows).1 (d.drawSprite s.x s.y s.rows).2 where
  cell column hc row hr := by
    rw [drawSprite, isOn_turnAll d false _ (by omega), count_spriteCells_of_short h hc hr]
    split <;> simp_all
  hit := by
    rw [drawSprite, hit_turnAll d false (nodup_spriteCells h), Bool.false_or, List.any_eq_true]
    constructor
    · rintro ⟨i, hi, hon⟩
      obtain ⟨column, hc, row, hr, rfl⟩ := exists_place (lt_of_mem_spriteCells hi)
      exact ⟨column, hc, row, hr, (mem_spriteCells_iff h hc hr).1 hi, hon⟩
    · rintro ⟨column, hc, row, hr, hcovers, hon⟩
      exact ⟨_, (mem_spriteCells_iff h hc hr).2 hcovers, hon⟩
  lit := by
    have hcount := litCount_turnAll d false (nodup_spriteCells h)
      fun i hi => lt_of_mem_spriteCells hi
    rw [countP_spriteCells h, length_spriteCells] at hcount
    rw [drawSprite]
    omega

/-- A sprite of at most thirty-two rows, wherever its corner is, turns over each cell under
one of its set bits and no other, reports whether one of them was on, and lights as many cells
as it has bits, less two for each that it put out. -/
theorem turns_at_once (d : Display) (x y : Int) (rows : List UInt8) (h : rows.length ≤ 32) :
    d.Draws ⟨x, y, rows⟩ (d.drawSprite x y rows).1 (d.drawSprite x y rows).2 :=
  draws_of_short (s := ⟨x, y, rows⟩) h d

/-- A sprite as high as the display, drawn across both edges upon another one. -/
theorem turns_at_once_around :
    (List.replicate 32 (0xA5 : UInt8)).length ≤ 32 ∧
      (blank.drawSprite 60 30 [0xFF, 0x81]).1.Draws ⟨-3, -40, List.replicate 32 0xA5⟩
        ((blank.drawSprite 60 30 [0xFF, 0x81]).1.drawSprite (-3) (-40)
          (List.replicate 32 0xA5)).1
        ((blank.drawSprite 60 30 [0xFF, 0x81]).1.drawSprite (-3) (-40)
          (List.replicate 32 0xA5)).2 :=
  ⟨by decide, turns_at_once _ (-3) (-40) (List.replicate 32 0xA5) (by decide)⟩

end Display

end ChipEight
