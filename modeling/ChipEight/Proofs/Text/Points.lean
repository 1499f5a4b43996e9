import ChipEight.Text.Points

/-!
# Code points and their codes

A code point is known by its code, and every code up to the last one belongs to a code point. The
codes of characters and the codes of halves are apart.
-/

namespace ChipEight.Text

/-- No character has the code of a half of a surrogate pair. -/
theorem toNat_not_half (c : Char) : ¬(0xD800 ≤ c.toNat ∧ c.toNat ≤ 0xDFFF) := by
  have hvalid : c.toNat < 0xD800 ∨ 0xDFFF < c.toNat ∧ c.toNat < 0x110000 := c.valid
  omega

theorem toNat_lt (c : Char) : c.toNat < 0x110000 := by
  have hvalid : c.toNat < 0xD800 ∨ 0xDFFF < c.toNat ∧ c.toNat < 0x110000 := c.valid
  omega

theorem points_injective : Function.Injective points := fun _ _ h =>
  String.toList_inj.1 ((List.map_inj_right fun _ _ hc => CodePoint.char.inj hc).1 h)

namespace CodePoint

theorem code_injective : Function.Injective code := by
  intro p q h
  cases p with
  | char c =>
      cases q with
      | char d => exact congrArg char (Char.toNat_inj.1 h)
      | half place =>
          have hc := toNat_not_half c
          simp only [code] at h
          omega
  | half place =>
      cases q with
      | char d =>
          have hd := toNat_not_half d
          simp only [code] at h
          omega
      | half place' => exact congrArg half (Fin.ext (Nat.add_left_cancel h))

theorem code_ofCode {n : Nat} (h : n < 0x110000) : (ofCode n).code = n := by
  unfold ofCode
  split
  · simp only [code]
    omega
  · have hvalid : n.isValidChar := by
      unfold Nat.isValidChar
      omega
    rw [code, Char.ofNat, dif_pos hvalid]
    rfl

end CodePoint

end ChipEight.Text
