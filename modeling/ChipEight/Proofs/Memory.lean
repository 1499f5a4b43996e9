import ChipEight.Memory

/-!
# Blocks of memory

`get_set` says what one store does. This file says what a row of stores does,
one address after the other: inside the block the bytes are the ones that were
stored, outside nothing moved, and whatever would have landed past the end of
the memory is dropped without a trace.

That last clause is what the machine needs. An instruction that stores a block
goes byte by byte and stops at the first address that does not fit, so what it
leaves behind is the whole block, cut off at the end of the memory, whether it
succeeded or not. `fill` and `block` are that cut for stores and loads, and
`blockFault?` tells which address was the first one outside.
-/

namespace ChipEight.Memory

variable {size : Nat}

theorem guarded_of_fits {α : Type} {a width : Int} (h : Fits size a width) (f : Nat → α) :
    guarded size a width f = .ok (f a.toNat) := if_pos h

theorem guarded_of_not_fits {α : Type} {a width : Int} (h : ¬ Fits size a width)
    (f : Nat → α) : guarded size a width f = .error (.outOfBounds a) := if_neg h

theorem map_lowByte_byteValue (bytes : List UInt8) :
    (bytes.map byteValue).map lowByte = bytes := by
  induction bytes with
  | nil => rfl
  | cons b bytes ih => rw [List.map_cons, List.map_cons, lowByte_byteValue, ih]

theorem ext_get {m m' : Memory size} (h : ∀ a < size, m.get a = m'.get a) : m = m' := by
  obtain ⟨cells⟩ := m
  obtain ⟨cells'⟩ := m'
  congr 1
  apply Vector.ext
  intro a ha
  have := h a ha
  simpa [get, ha] using this

theorem get_of_le {a : Nat} (h : size ≤ a) (m : Memory size) : m.get a = 0 := by
  simp [get, h]

theorem set_of_le {a : Nat} (h : size ≤ a) (m : Memory size) (b : UInt8) :
    m.set a b = m := by
  apply ext_get
  intro c _
  rw [get_set, if_neg (by omega)]

theorem setAll_of_le {a : Nat} (h : size ≤ a) (m : Memory size) (bs : List UInt8) :
    m.setAll a bs = m := by
  induction bs generalizing a with
  | nil => rfl
  | cons b bs ih => rw [setAll, set_of_le h, ih (by omega)]

theorem get_setAll_of_outside (m : Memory size) {a c : Nat} (bs : List UInt8)
    (h : c < a ∨ a + bs.length ≤ c) : (m.setAll a bs).get c = m.get c := by
  induction bs generalizing m a with
  | nil => rfl
  | cons b bs ih =>
      simp only [List.length_cons] at h
      rw [setAll, ih _ (by omega), get_set, if_neg (by omega)]

theorem get_setAll_of_inside (m : Memory size) {a k : Nat} (bs : List UInt8)
    (hk : k < bs.length) (hs : a + k < size) :
    (m.setAll a bs).get (a + k) = bs[k] := by
  induction bs generalizing m a k with
  | nil => simp at hk
  | cons b bs ih =>
      rw [setAll]
      cases k with
      | zero =>
          rw [get_setAll_of_outside _ _ (by omega), get_set, if_pos (by omega)]
          rfl
      | succ k =>
          simp only [List.length_cons] at hk
          rw [show a + (k + 1) = a + 1 + k by omega, ih _ (by omega) (by omega)]
          rfl

/-- What a row of stores leaves at every address. -/
theorem get_setAll (m : Memory size) (a : Nat) (bs : List UInt8) (c : Nat) :
    (m.setAll a bs).get c =
      if a ≤ c ∧ c < a + bs.length ∧ c < size then bs.getD (c - a) 0 else m.get c := by
  split
  · next h =>
      obtain ⟨k, rfl⟩ : ∃ k, c = a + k := ⟨c - a, by omega⟩
      have hk : k < bs.length := by omega
      rw [get_setAll_of_inside m bs hk h.2.2, Nat.add_sub_cancel_left]
      simp [hk]
  · next h =>
      by_cases hc : c < size
      · exact get_setAll_of_outside m bs (by omega)
      · rw [get_of_le (by omega), get_of_le (by omega)]

/-! ## Blocks that may not fit -/

theorem fits_one_iff {a : Int} : Fits size a 1 ↔ 0 ≤ a ∧ a < size := by
  simp only [Fits]
  omega

theorem fits_block_iff {a : Int} {count : Nat} :
    Fits size a count ↔ 0 ≤ a ∧ a + count ≤ size := Iff.rfl

/-- The first address outside, going upwards from `a`. -/
def firstOutside (size : Nat) (a : Int) : Int := if a < 0 then a else max a size

/-- The fault of going through `count` addresses from `a` upwards. -/
def blockFault? (size : Nat) (a : Int) (count : Nat) : Option Fault :=
  if count = 0 ∨ Fits size a count then none
  else some (.outOfBounds (firstOutside size a))

/-- Memory with bytes stored from `a` upwards, as far as they fit. -/
def fill (m : Memory size) (a : Int) (bs : List UInt8) : Memory size :=
  if 0 ≤ a then m.setAll a.toNat bs else m

/-- The bytes from `a` upwards, at most `count`, as far as there are any. -/
def block (m : Memory size) (a : Int) (count : Nat) : List UInt8 :=
  if 0 ≤ a then m.span a.toNat (min count (size - a.toNat)) else []

theorem blockFault?_zero (a : Int) : blockFault? size a 0 = none := by
  rw [blockFault?, if_pos (Or.inl rfl)]

theorem firstOutside_of_not_fits {a : Int} (h : ¬ Fits size a 1) :
    firstOutside size a = a := by
  rw [fits_one_iff] at h
  rw [firstOutside]
  split <;> omega

theorem firstOutside_succ {a : Int} (h : Fits size a 1) :
    firstOutside size (a + 1) = firstOutside size a := by
  rw [fits_one_iff] at h
  rw [firstOutside, firstOutside, if_neg (by omega), if_neg (by omega)]
  omega

/-- Where the first address fits, the rest of the block decides. -/
theorem blockFault?_succ {a : Int} (h : Fits size a 1) (count : Nat) :
    blockFault? size a (count + 1) = blockFault? size (a + 1) count := by
  have hrest : (count + 1 = 0 ∨ Fits size a (count + 1 : Nat)) ↔
      (count = 0 ∨ Fits size (a + 1) count) := by
    rw [fits_one_iff] at h
    rw [fits_block_iff, fits_block_iff]
    omega
  rw [blockFault?, blockFault?, firstOutside_succ h]
  simp only [hrest]

theorem blockFault?_succ_of_not_fits {a : Int} (h : ¬ Fits size a 1) (count : Nat) :
    blockFault? size a (count + 1) = some (.outOfBounds a) := by
  have hall : ¬ (count + 1 = 0 ∨ Fits size a (count + 1 : Nat)) := by
    rw [fits_one_iff] at h
    rw [fits_block_iff]
    omega
  rw [blockFault?, if_neg hall, firstOutside_of_not_fits h]

theorem blockFault?_eq_some_iff {a : Int} (h : 0 ≤ a) {count : Nat} {f : Fault} :
    blockFault? size a count = some f ↔
      (count ≠ 0 ∧ size < a + count) ∧ f = .outOfBounds (max a size) := by
  have hfirst : firstOutside size a = max a size := if_neg (by omega)
  rw [blockFault?, hfirst]
  split
  · next hfits =>
      constructor
      · intro hf
        cases hf
      · rintro ⟨hout, -⟩
        rw [fits_block_iff] at hfits
        omega
  · next hfits =>
      have hout : count ≠ 0 ∧ size < a + count := by
        rw [fits_block_iff] at hfits
        omega
      constructor
      · intro hf
        cases hf
        exact ⟨hout, rfl⟩
      · rintro ⟨-, rfl⟩
        rfl

theorem get_fill {a : Int} (h : 0 ≤ a) (m : Memory size) (bs : List UInt8) (c : Nat) :
    (m.fill a bs).get c =
      if a.toNat ≤ c ∧ c < a.toNat + bs.length ∧ c < size then bs.getD (c - a.toNat) 0
      else m.get c := by
  rw [fill, if_pos h, get_setAll]

theorem length_block {a : Int} (h : 0 ≤ a) (m : Memory size) (count : Nat) :
    (m.block a count).length = min count (size - a.toNat) := by
  rw [block, if_pos h, length_span]

theorem getD_block {a : Int} (h : 0 ≤ a) (m : Memory size) {count k : Nat}
    (hk : k < min count (size - a.toNat)) :
    (m.block a count).getD k 0 = m.get (a.toNat + k) := by
  rw [block, if_pos h]
  simp [span, hk]

theorem fill_nil (m : Memory size) (a : Int) : m.fill a [] = m := by
  simp [fill, setAll]

theorem fill_cons {a : Int} (h : Fits size a 1) (m : Memory size) (b : UInt8)
    (bs : List UInt8) :
    m.fill a (b :: bs) = (m.set a.toNat b).fill (a + 1) bs := by
  rw [fits_one_iff] at h
  rw [fill, fill, if_pos (by omega), if_pos (by omega), setAll]
  congr 1
  omega

theorem fill_of_not_fits {a : Int} (h : ¬ Fits size a 1) (m : Memory size)
    (bs : List UInt8) : m.fill a bs = m := by
  rw [fits_one_iff] at h
  rw [fill]
  split
  · exact setAll_of_le (by omega) m bs
  · rfl

theorem block_zero (m : Memory size) (a : Int) : m.block a 0 = [] := by
  simp [block, span]

theorem block_succ {a : Int} (h : Fits size a 1) (m : Memory size) (count : Nat) :
    m.block a (count + 1) = m.get a.toNat :: m.block (a + 1) count := by
  rw [fits_one_iff] at h
  rw [block, block, if_pos (by omega), if_pos (by omega),
    show min (count + 1) (size - a.toNat)
      = min count (size - (a + 1).toNat) + 1 by omega,
    span, List.range'_succ, List.map_cons, span,
    show a.toNat + 1 = (a + 1).toNat by omega]

theorem block_of_not_fits {a : Int} (h : ¬ Fits size a 1) (m : Memory size)
    (count : Nat) : m.block a count = [] := by
  rw [fits_one_iff] at h
  rw [block]
  split
  · rw [show min count (size - a.toNat) = 0 by omega]
    rfl
  · rfl

theorem loadSegment_of_fits {a : Nat} {data : List UInt8} (h : Fits size a data.length)
    (m : Memory size) : m.loadSegment a data = .ok (m.setAll a data) :=
  guarded_of_fits h _

/-- A block that fits is read whole. -/
theorem readBlock_eq {a length : Int} (hl : 0 ≤ length) (m : Memory size) :
    m.readBlock a length =
      if Fits size a length then .ok (m.block a length.toNat)
      else .error (.outOfBounds a) := by
  rw [readBlock]
  split
  · next h =>
      rw [guarded_of_fits h]
      obtain ⟨h0, h1⟩ := h
      rw [block, if_pos h0, blockEnd, if_neg (by omega)]
      congr 2
      omega
  · next h => rw [guarded_of_not_fits h]

end ChipEight.Memory
