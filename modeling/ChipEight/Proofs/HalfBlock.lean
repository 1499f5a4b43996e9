import ChipEight.HalfBlock
import ChipEight.Proofs.Except
import Mathlib.Data.List.GetD

/-!
# What a picture in half blocks shows

A character stands for two pixels, one above the other, and it can be seen from the character
which of them are on. So a picture shows of each pixel whether it is on, at a place of its own.
The only places without a pixel are those below an odd last row, and they are off. What is lost is
by how much a pixel is on: where it can only be off or fully on, nothing is.

A buffer is one row after the other, so a pixel's place in it is taken apart into row and column by
one division, and the row into line and half by another. Drawing goes the other way: it takes two
rows out of the buffer and goes through their columns. In a buffer of the right size every row it
takes has a pixel at each of them, so nothing fails that was not refused at once.
-/

namespace ChipEight.HalfBlock

/-- The upper pixel of a character is on. -/
def ShowsUpper (c : Char) : Prop := c = '▀' ∨ c = '█'

/-- The lower pixel of a character is on. -/
def ShowsLower (c : Char) : Prop := c = '▄' ∨ c = '█'

/-- The character at a column of a line. -/
def charIn? (picture : List String) (line column : Nat) : Option Char :=
  picture[line]?.bind fun l => l.toList[column]?

/-- A picture shows a buffer: it has a line for every two rows, and one for a row that is left. A
line has a character for every column, which shows the pixel in the upper row and the one in the
lower row, if there is such a row. -/
structure Shows (width height : Nat) (buffer : List UInt8) (picture : List String) : Prop where
  lines : picture.length = (height + 1) / 2
  columns : ∀ l ∈ picture, l.length = width
  pixels : ∀ r < picture.length, ∀ x < width, ∃ c, charIn? picture r x = some c ∧
    c ∈ [' ', '▀', '▄', '█'] ∧
    (ShowsUpper c ↔ buffer.getD (2 * r * width + x) 0 ≠ 0) ∧
    (ShowsLower c ↔ 2 * r + 1 < height ∧ buffer.getD ((2 * r + 1) * width + x) 0 ≠ 0)

/-- Every pixel is off or fully on. -/
def TwoTone (buffer : List UInt8) : Prop := ∀ b ∈ buffer, b = 0 ∨ b = 255

instance (buffer : List UInt8) : Decidable (TwoTone buffer) :=
  inferInstanceAs (Decidable (∀ _ ∈ _, _))

theorem glyph_mem (upper lower : Bool) : glyph upper lower ∈ [' ', '▀', '▄', '█'] := by
  cases upper <;> cases lower <;> simp [glyph]

theorem showsUpper_glyph (upper lower : Bool) :
    ShowsUpper (glyph upper lower) ↔ upper = true := by
  cases upper <;> cases lower <;> simp [ShowsUpper, glyph]

theorem showsLower_glyph (upper lower : Bool) :
    ShowsLower (glyph upper lower) ↔ lower = true := by
  cases upper <;> cases lower <;> simp [ShowsLower, glyph]

/-- Whether a pixel of a buffer is on. -/
def isOn (buffer : List UInt8) (i : Nat) : Bool := buffer.getD i 0 != 0

theorem isOn_iff {buffer : List UInt8} {i : Nat} :
    isOn buffer i = true ↔ buffer.getD i 0 ≠ 0 := by
  simp [isOn]

variable {width height : Nat} {buffer buffer' : List UInt8} {picture : List String}

/-! ## Rows -/

/-- What a row has at a column is what the buffer has at the pixel's place. -/
theorem pixel_row {y x : Nat} (hsize : buffer.length = width * height) (hy : y < height)
    (hx : x < width) :
    pixel (row width buffer.toArray y) x = .ok (isOn buffer (y * width + x)) := by
  have hend : (y + 1) * width ≤ buffer.length := by
    rw [hsize, Nat.mul_comm width]
    exact Nat.mul_le_mul_right width hy
  have hrow : (y + 1) * width = y * width + width := Nat.succ_mul y width
  have hplace : y * width + x < buffer.length := by omega
  have hcell : (row width buffer.toArray y)[x]? = some buffer[y * width + x] := by
    rw [row, Array.getElem?_extract, if_pos (by rw [List.size_toArray]; omega),
      List.getElem?_toArray, List.getElem?_eq_getElem hplace]
  rw [pixel, hcell, isOn, List.getD_eq_getElem _ _ hplace]

theorem pixel_rowBelow {y x : Nat} (hsize : buffer.length = width * height) (hx : x < width) :
    pixel (rowBelow width height buffer.toArray y) x =
      .ok (y + 1 < height && isOn buffer ((y + 1) * width + x)) := by
  by_cases hy : y + 1 < height
  · rw [rowBelow, if_pos hy, pixel_row hsize hy hx, decide_eq_true hy, Bool.true_and]
  · rw [rowBelow, if_neg hy, pixel, Array.getElem?_replicate, if_pos hx, decide_eq_false hy,
      Bool.false_and]
    rfl

theorem upperRows_eq (y left : Nat) :
    upperRows y left = (List.range ((left + 1) / 2)).map fun r => y + 2 * r := by
  induction y, left using upperRows.induct with
  | case1 y => rfl
  | case2 y => rfl
  | case3 y left ih =>
    rw [upperRows, ih, show (left + 2 + 1) / 2 = (left + 1) / 2 + 1 by omega,
      List.range_succ_eq_map, List.map_cons, List.map_map]
    refine congrArg _ (List.map_congr_left fun r _ => ?_)
    simp only [Function.comp_apply]
    omega

/-! ## The picture of a buffer -/

/-- The character at a column of a line, by the places of its two pixels. -/
def charAt (width height : Nat) (buffer : List UInt8) (line column : Nat) : Char :=
  glyph (isOn buffer (2 * line * width + column))
    (2 * line + 1 < height && isOn buffer ((2 * line + 1) * width + column))

/-- One line of text. -/
def lineAt (width height : Nat) (buffer : List UInt8) (line : Nat) : String :=
  String.ofList ((List.range width).map (charAt width height buffer line))

/-- The lines, whatever the size of the buffer. -/
def pictureOf (width height : Nat) (buffer : List UInt8) : List String :=
  (List.range ((height + 1) / 2)).map (lineAt width height buffer)

/-- Every line is drawn: its upper row is in the frame, so there is a pixel at each column. -/
theorem lineOf_rows {r : Nat} (hsize : buffer.length = width * height)
    (hr : r < (height + 1) / 2) :
    lineOf width (row width buffer.toArray (2 * r)) (rowBelow width height buffer.toArray (2 * r))
      = .ok (lineAt width height buffer r) := by
  have hupper : 2 * r < height := by omega
  have hchars : (List.range width).mapM (charOf (row width buffer.toArray (2 * r))
      (rowBelow width height buffer.toArray (2 * r))) =
        .ok ((List.range width).map (charAt width height buffer r)) := by
    refine mapM_eq_ok_map fun x hx => ?_
    have hcolumn : x < width := List.mem_range.1 hx
    rw [charOf, pixel_row hsize hupper hcolumn, pixel_rowBelow hsize hcolumn]
    rfl
  rw [lineOf, hchars]
  rfl

theorem lines_of_size (h : buffer.length = width * height) :
    lines width height buffer = .ok (pictureOf width height buffer) := by
  have hlines : (upperRows 0 height).mapM (fun y => lineOf width (row width buffer.toArray y)
      (rowBelow width height buffer.toArray y)) = .ok (pictureOf width height buffer) := by
    rw [upperRows_eq, List.mapM_map]
    refine mapM_eq_ok_map fun r hr => ?_
    rw [Function.comp_apply, Nat.zero_add]
    exact lineOf_rows h (List.mem_range.1 hr)
  rw [lines, if_pos (by rw [h, Int.natCast_mul])]
  exact hlines

theorem lines_of_not_size (h : buffer.length ≠ width * height) :
    lines width height buffer = .error (.size ⟨buffer.length, width * height⟩) := by
  rw [lines, if_neg fun hsize => h (by exact_mod_cast hsize)]

theorem eq_of_lines (h : lines width height buffer = .ok picture) :
    buffer.length = width * height ∧ picture = pictureOf width height buffer := by
  by_cases hsize : buffer.length = width * height
  · rw [lines_of_size hsize] at h
    exact ⟨hsize, (Except.ok.inj h).symm⟩
  · rw [lines_of_not_size hsize] at h
    cases h

theorem charIn?_pictureOf {r x : Nat} (hr : r < (height + 1) / 2) (hx : x < width) :
    charIn? (pictureOf width height buffer) r x =
      some (charAt width height buffer r x) := by
  rw [charIn?, pictureOf, List.getElem?_map, List.getElem?_range hr, Option.map_some,
    Option.bind_some, lineAt, String.toList_ofList, List.getElem?_map, List.getElem?_range hx,
    Option.map_some]

theorem shows_pictureOf : Shows width height buffer (pictureOf width height buffer) where
  lines := by rw [pictureOf, List.length_map, List.length_range]
  columns l hl := by
    obtain ⟨r, -, rfl⟩ := List.mem_map.1 hl
    rw [lineAt, String.length_ofList, List.length_map, List.length_range]
  pixels r hr x hx := by
    rw [pictureOf, List.length_map, List.length_range] at hr
    refine ⟨_, charIn?_pictureOf hr hx, ?_⟩
    rw [charAt, showsUpper_glyph, showsLower_glyph, Bool.and_eq_true, isOn_iff, isOn_iff,
      decide_eq_true_iff]
    exact ⟨glyph_mem _ _, Iff.rfl, Iff.rfl⟩

/-! ## The buffer of a picture -/

/-- Two buffers with one picture have the same pixels on. -/
theorem Shows.on_iff (h : Shows width height buffer picture)
    (h' : Shows width height buffer' picture) {i : Nat} (hi : i < width * height) :
    buffer.getD i 0 ≠ 0 ↔ buffer'.getD i 0 ≠ 0 := by
  have hwidth : 0 < width := Nat.pos_of_mul_pos_right (Nat.zero_lt_of_lt hi)
  have hrow : i / width < height := Nat.div_lt_of_lt_mul hi
  have hcolumn : i % width < width := Nat.mod_lt i hwidth
  have hplace : i / width * width + i % width = i := Nat.div_add_mod' i width
  have hline : i / width / 2 < picture.length := by
    rw [h.lines]
    omega
  obtain ⟨c, hc, -, hupper, hlower⟩ := h.pixels _ hline _ hcolumn
  obtain ⟨c', hc', -, hupper', hlower'⟩ := h'.pixels _ hline _ hcolumn
  obtain rfl : c = c' := Option.some.inj (hc.symm.trans hc')
  rcases Nat.mod_two_eq_zero_or_one (i / width) with heven | hodd
  · rw [show 2 * (i / width / 2) = i / width by omega, hplace] at hupper hupper'
    exact hupper.symm.trans hupper'
  · rw [show 2 * (i / width / 2) + 1 = i / width by omega, hplace] at hlower hlower'
    simpa only [hrow, true_and] using hlower.symm.trans hlower'

theorem eq_of_on_iff (hsize : buffer.length = buffer'.length) (htone : TwoTone buffer)
    (htone' : TwoTone buffer')
    (hon : ∀ i < buffer.length, buffer.getD i 0 ≠ 0 ↔ buffer'.getD i 0 ≠ 0) :
    buffer = buffer' := by
  refine List.ext_getElem hsize fun i hi hi' => ?_
  have hpixel := hon i hi
  rw [List.getD_eq_getElem _ _ hi, List.getD_eq_getElem _ _ hi'] at hpixel
  rcases htone _ (List.getElem_mem hi) with h | h <;>
    rcases htone' _ (List.getElem_mem hi') with h' | h' <;> simp_all

/-- A buffer is refused exactly if its size is not that of the frame, and then for its size; else it
is shown. No two buffers of pixels that are off or fully on make the same picture. -/
theorem lines_lose_nothing (width height : Nat) (buffer : List UInt8) :
    ((∃ f, lines width height buffer = .error f) ↔ buffer.length ≠ width * height) ∧
    (∀ f, lines width height buffer = .error f → f = .size ⟨buffer.length, width * height⟩) ∧
    (buffer.length = width * height → ∃ picture, lines width height buffer = .ok picture ∧
      Shows width height buffer picture) ∧
    ∀ buffer' picture, TwoTone buffer → TwoTone buffer' →
      lines width height buffer = .ok picture → lines width height buffer' = .ok picture →
      buffer = buffer' := by
  have hrefused (f : Fault) (hf : lines width height buffer = .error f) :
      buffer.length ≠ width * height := by
    intro hsize
    rw [lines_of_size hsize] at hf
    cases hf
  refine ⟨⟨fun ⟨f, hf⟩ => hrefused f hf, fun h => ⟨_, lines_of_not_size h⟩⟩, fun f hf => ?_,
    fun h => ⟨_, lines_of_size h, shows_pictureOf⟩,
    fun buffer' picture htone htone' hlines hlines' => ?_⟩
  · exact (Except.error.inj ((lines_of_not_size (hrefused f hf)).symm.trans hf)).symm
  · obtain ⟨hsize, hpicture⟩ := eq_of_lines hlines
    obtain ⟨hsize', hpicture'⟩ := eq_of_lines hlines'
    have hshows : Shows width height buffer picture := hpicture ▸ shows_pictureOf
    have hshows' : Shows width height buffer' picture := hpicture' ▸ shows_pictureOf
    exact eq_of_on_iff (hsize.trans hsize'.symm) htone htone' fun i hi =>
      hshows.on_iff hshows' (hsize ▸ hi)

/-- Three rows of two pixels: the last line has nothing below. -/
theorem lines_lose_nothing_odd :
    ∃ buffer picture, buffer = [255, 0, 255, 255, 0, 255] ∧ TwoTone buffer ∧
      lines 2 3 buffer = .ok picture ∧ picture = ["█▄", " ▀"] ∧ Shows 2 3 buffer picture ∧
      ∀ buffer', TwoTone buffer' → lines 2 3 buffer' = .ok picture → buffer' = buffer := by
  obtain ⟨-, -, hshown, hunique⟩ := lines_lose_nothing 2 3 [255, 0, 255, 255, 0, 255]
  have htone : TwoTone [255, 0, 255, 255, 0, 255] := by decide +kernel
  obtain ⟨picture, hlines, hshows⟩ := hshown rfl
  have hpicture : lines 2 3 [255, 0, 255, 255, 0, 255] = .ok ["█▄", " ▀"] := rfl
  exact ⟨_, picture, rfl, htone, hlines, Except.ok.inj (hlines.symm.trans hpicture), hshows,
    fun buffer' htone' hlines' => (hunique buffer' picture htone htone' hlines hlines').symm⟩

end ChipEight.HalfBlock
