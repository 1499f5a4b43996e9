import ChipEight.Numeral.Hex

/-!
# Hexadecimal text read back

`hex` pads to a width and never cuts, so its text determines the number whatever
the width was: leading zeros count for nothing, and the digits of a number read
back to it. That is the only fact about the text that a listing needs, next to
what its characters are, since a number written here never holds a separator.
-/

namespace ChipEight.Numeral

/-- A hexadecimal digit as it is written. -/
def hexDigit (d : Nat) : Char := (Nat.digitChar d).toUpper

theorem hexValue?_hexDigit : ∀ d < 16, hexValue? (hexDigit d) = some d := by decide

theorem toList_hexDigits (n : Nat) :
    (hexDigits n).toList = (Nat.toDigits 16 n).map Char.toUpper := by
  rw [hexDigits, String.toList_ofList]

theorem toList_hexDigits_of_lt {d : Nat} (h : d < 16) :
    (hexDigits d).toList = [hexDigit d] := by
  rw [toList_hexDigits, Nat.toDigits_of_lt_base h]
  rfl

/-- The last digit comes off the end. -/
theorem toList_hexDigits_append {n d : Nat} (hn : 0 < n) (hd : d < 16) :
    (hexDigits (16 * n + d)).toList = (hexDigits n).toList ++ [hexDigit d] := by
  rw [toList_hexDigits, ← Nat.toDigits_append_toDigits (by decide) hn hd, List.map_append,
    ← toList_hexDigits, ← toList_hexDigits, toList_hexDigits_of_lt hd]

theorem ofHex_hexDigits (n : Nat) : ofHex (hexDigits n) = n := by
  rw [ofHex]
  induction n using Nat.base_induction 16 (by decide) with
  | single d hd =>
      rw [toList_hexDigits_of_lt hd]
      simp [hexValue?_hexDigit d hd]
  | digit n d hd hn ih =>
      rw [toList_hexDigits_append hn hd, List.foldl_append, ih]
      simp only [List.foldl_cons, List.foldl_nil, hexValue?_hexDigit d hd, Option.getD_some]
      omega

theorem exists_digit_of_mem_hexDigits {n : Nat} {c : Char} (h : c ∈ (hexDigits n).toList) :
    ∃ d < 16, c = hexDigit d := by
  induction n using Nat.base_induction 16 (by decide) with
  | single d hd =>
      rw [toList_hexDigits_of_lt hd, List.mem_singleton] at h
      exact ⟨d, hd, h⟩
  | digit n d hd hn ih =>
      rw [toList_hexDigits_append hn hd, List.mem_append, List.mem_singleton] at h
      rcases h with h | h
      · exact ih h
      · exact ⟨d, hd, h⟩

/-! ## With padding -/

theorem toList_hex {v : Int} (hv : 0 ≤ v) (width : Nat) :
    (hex width v).toList =
      List.replicate (width - (hexDigits v.natAbs).length) '0' ++
        (hexDigits v.natAbs).toList := by
  rw [hex, if_neg (by omega), Text.padLeft, Text.filler, String.toList_append,
    String.toList_ofList]

theorem foldl_replicate_zero (k : Nat) :
    (List.replicate k '0').foldl (fun n c => n * 16 + (hexValue? c).getD 0) 0 = 0 := by
  induction k with
  | zero => rfl
  | succ k ih =>
      rw [List.replicate_succ, List.foldl_cons]
      exact ih

/-- The text of a number reads back to the number, whatever its width. -/
theorem ofHex_hex {v : Int} (hv : 0 ≤ v) (width : Nat) :
    (ofHex (hex width v) : Int) = v := by
  have hdigits := ofHex_hexDigits v.natAbs
  rw [ofHex] at hdigits
  rw [ofHex, toList_hex hv, List.foldl_append, foldl_replicate_zero, hdigits]
  omega

theorem exists_digit_of_mem_hex {v : Int} (hv : 0 ≤ v) {width : Nat} {c : Char}
    (h : c ∈ (hex width v).toList) : ∃ d < 16, c = hexDigit d := by
  rw [toList_hex hv, List.mem_append] at h
  rcases h with h | h
  · obtain ⟨-, rfl⟩ := List.mem_replicate.1 h
    exact ⟨0, by decide, by decide⟩
  · exact exists_digit_of_mem_hexDigits h

end ChipEight.Numeral
