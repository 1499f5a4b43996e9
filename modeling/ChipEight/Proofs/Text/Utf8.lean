import ChipEight.Text.Newline
import ChipEight.Text.Utf8

/-!
# ASCII in files

A character of ASCII is a byte of a file, and a text without other characters is read back
from its bytes as it was.
-/

namespace ChipEight.Text

/-- A character of ASCII that is no carriage return. -/
def IsPlain (c : Char) : Prop := c.toNat < 0x80 ∧ c ≠ '\r'

theorem unifyNewlines_of_plain {cs : List Char} (h : ∀ c ∈ cs, IsPlain c) :
    unifyNewlines cs = cs := by
  induction cs with
  | nil => rfl
  | cons c cs ih =>
      have hc := (h c List.mem_cons_self).2
      rw [unifyNewlines.eq_4 _ _ (fun _ h => absurd h hc) hc,
        ih fun d hd => h d (List.mem_cons_of_mem c hd)]

namespace Utf8

theorem toList_loop (bs : ByteArray) (i : Nat) (r : List UInt8) :
    ByteArray.toList.loop bs i r = r.reverse ++ bs.data.toList.drop i := by
  fun_induction ByteArray.toList.loop bs i r with
  | case1 i r hi ih =>
      have hlen : i < bs.data.toList.length := by simpa using hi
      rw [ih, List.drop_eq_getElem_cons hlen]
      simp [ByteArray.get!, hi]
  | case2 i r hi =>
      rw [List.drop_eq_nil_of_le (by simpa using hi), List.append_nil]

theorem utf8EncodeChar_ascii {c : Char} (h : c.toNat < 0x80) :
    String.utf8EncodeChar c = [c.toNat.toUInt8] := by
  have hsize : c.utf8Size = 1 := by
    rw [Char.utf8Size_eq_one_iff, UInt32.le_iff_toNat_le]
    exact Nat.le_of_lt_succ h
  exact String.utf8EncodeChar_eq_singleton hsize

theorem encode_ascii {cs : List Char} (h : ∀ c ∈ cs, c.toNat < 0x80) :
    encode (String.ofList cs) = cs.map fun c => c.toNat.toUInt8 := by
  rw [encode, String.toUTF8_eq_toByteArray, String.toByteArray_ofList, ByteArray.toList,
    toList_loop, List.utf8Encode, List.toList_data_toByteArray]
  induction cs with
  | nil => rfl
  | cons c cs ih =>
      rw [List.flatMap_cons, utf8EncodeChar_ascii (h c List.mem_cons_self)]
      exact congrArg (_ :: ·) (ih fun d hd => h d (List.mem_cons_of_mem c hd))

theorem read_ascii {n : Nat} (h : n < 0x80) (rest : List UInt8) :
    read n.toUInt8 rest = .char (Char.ofNat n) 1 := by
  have hn : n.toUInt8.toNat = n := Nat.mod_eq_of_lt (by omega)
  have hlead : lead? n.toUInt8 = some (1, n) := by
    rw [lead?, if_pos (UInt8.lt_iff_toNat_lt.2 (hn.symm ▸ h)), hn]
  rw [read, hlead]
  rfl

/-- A text of ASCII is read back from its bytes. -/
theorem decodeFrom_ascii {cs : List Char} (h : ∀ c ∈ cs, c.toNat < 0x80) {rounds : Nat}
    (hrounds : cs.length ≤ rounds) (position : Nat) :
    decodeFrom rounds position (cs.map fun c => c.toNat.toUInt8) = .ok cs := by
  induction cs generalizing rounds position with
  | nil => cases rounds <;> rfl
  | cons c cs ih =>
      obtain ⟨rounds, rfl⟩ : ∃ n, rounds = n + 1 := ⟨rounds - 1, by simp at hrounds; omega⟩
      have hrest := ih (fun d hd => h d (List.mem_cons_of_mem c hd))
        (Nat.le_of_succ_le_succ hrounds) (position + 1)
      rw [List.map_cons, decodeFrom, read_ascii (h c List.mem_cons_self)]
      simp only [List.drop_succ_cons, List.drop_zero, hrest, Char.ofNat_toNat]
      rfl

theorem decode_encode_ascii {cs : List Char} (h : ∀ c ∈ cs, c.toNat < 0x80) :
    decode (encode (String.ofList cs)) = .ok cs := by
  rw [decode, encode_ascii h]
  exact decodeFrom_ascii h (Nat.le_of_eq (List.length_map _).symm) 0

end Utf8

end ChipEight.Text
