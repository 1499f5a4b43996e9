import ChipEight.Proofs.Except
import ChipEight.Proofs.Memory

/-!
# What a memory remembers

There are six ways to get at a memory, of three different widths, and any of them may be tried
at any address. What they have in common is said once: an access that fits answers from the bytes
that are there and stores its numbers one after the other (`Access.perform_of_fits`), and an
access that does not fit is refused by its address and does nothing
(`Access.perform_of_not_fits`).

So a memory can be told from the numbers that were stored in it. Each of them went to an address
of its own, the last one at an address is the one that counts, and of that one the low eight
bits. `byteAfter` reads a byte off such a record, and after any history of accesses, the refused
ones included, every byte of the memory is the one that its record gives.
-/

namespace ChipEight.Memory

/-- What can be asked of a memory. -/
inductive Access where
  | read8 (address : Int)
  | read16 (address : Int)
  | write8 (address value : Int)
  | write16 (address value : Int)
  | readBlock (address : Int) (length : Nat)
  | loadSegment (address : Int) (data : List UInt8)

/-- What a memory answers. -/
inductive Answer where
  | byte (b : UInt8)
  | word (w : Nat)
  | block (bytes : List UInt8)
  | stored

/-- Numbers at consecutive addresses. -/
def upwards (a : Int) : List Int → List (Int × Int)
  | [] => []
  | v :: vs => (a, v) :: upwards (a + 1) vs

/-- The byte at an address after some numbers were stored, each at an address of its own: the
low eight bits of the last one there, and zero if there is none. -/
def byteAfter (stores : List (Int × Int)) (a : Int) : UInt8 :=
  ((stores.reverse.lookup a).map lowByte).getD 0

variable {size : Nat}

/-- Stores numbers byte by byte. -/
def writeEach (m : Memory size) (stores : List (Int × Int)) : Except Fault (Memory size) :=
  stores.foldlM (fun m s => m.write8 s.1 s.2) m

/-- What became of a store: where it was refused, the memory is still the one before. -/
def afterStore (m : Memory size) :
    Except Fault (Memory size) → Except Fault Answer × Memory size
  | .ok m' => (.ok .stored, m')
  | .error f => (.error f, m)

namespace Access

/-- Where an access starts. -/
def address : Access → Int
  | read8 a => a
  | read16 a => a
  | write8 a _ => a
  | write16 a _ => a
  | readBlock a _ => a
  | loadSegment a _ => a

/-- To how many bytes an access goes. -/
def width : Access → Int
  | read8 _ => 1
  | read16 _ => 2
  | write8 _ _ => 1
  | write16 _ _ => 2
  | readBlock _ length => length
  | loadSegment _ data => data.length

/-- The numbers that an access stores from its address upwards. -/
def values : Access → List Int
  | write8 _ v => [v]
  | write16 _ v => [v / 256, v]
  | loadSegment _ data => data.map byteValue
  | _ => []

/-- The answer to an access that fits, as the bytes have it. -/
def answer (bytes : Int → UInt8) : Access → Answer
  | read8 a => .byte (bytes a)
  | read16 a => .word ((bytes a).toNat * 256 + (bytes (a + 1)).toNat)
  | readBlock a length => .block ((List.range length).map fun k : Nat => bytes (a + k))
  | _ => .stored

/-- What an access adds to the record of what was stored. -/
def stores (size : Nat) (x : Access) : List (Int × Int) :=
  if Fits size x.address x.width then upwards x.address x.values else []

/-- The answer to an access, and the memory after it. -/
def perform (m : Memory size) : Access → Except Fault Answer × Memory size
  | read8 a => ((m.read8 a).map .byte, m)
  | read16 a => ((m.read16 a).map .word, m)
  | write8 a v => m.afterStore (m.write8 a v)
  | write16 a v => m.afterStore (m.write16 a v)
  | readBlock a length => ((m.readBlock a length).map .block, m)
  | loadSegment a data => m.afterStore (m.loadSegment a data)

end Access

/-- The memory after some accesses, refused ones among them. -/
def afterAll (m : Memory size) (history : List Access) : Memory size :=
  history.foldl (fun m x => (x.perform m).2) m

/-- All that was stored by some accesses, the earliest first. -/
def stored (size : Nat) (history : List Access) : List (Int × Int) :=
  history.flatMap (Access.stores size)

/-! ## One access -/

theorem toNat_next {a : Int} (h : 0 ≤ a) : (a + 1).toNat = a.toNat + 1 := Int.toNat_add_nat h 1

theorem block_eq_map {a : Int} {n : Nat} (h : Fits size a n) (m : Memory size) :
    m.block a n = (List.range n).map fun k : Nat => m.get (a + k).toNat := by
  obtain ⟨h₀, hn⟩ := h
  have hall : min n (size - a.toNat) = n := by omega
  rw [block, if_pos h₀, span, hall, List.range'_eq_map_range, List.map_map]
  apply List.map_congr_left
  intro k _
  show m.get (a.toNat + k) = m.get (a + (k : Int)).toNat
  rw [show a.toNat + k = (a + (k : Int)).toNat by omega]

theorem Access.length_values_le (x : Access) : (x.values.length : Int) ≤ x.width := by
  cases x <;> simp [Access.values, Access.width]

/-- What every access does where it fits. -/
theorem Access.perform_of_fits {x : Access} (h : Fits size x.address x.width)
    (m : Memory size) :
    x.perform m =
      (.ok (x.answer fun a => m.get a.toNat),
        m.setAll x.address.toNat (x.values.map lowByte)) := by
  cases x <;> simp only [address, width] at h ⊢
  case read8 a =>
    rw [perform, Memory.read8, guarded_of_fits h]
    rfl
  case read16 a =>
    rw [perform, Memory.read16, guarded_of_fits h, answer, toNat_next h.1]
    rfl
  case write8 a v =>
    rw [perform, Memory.write8, guarded_of_fits h]
    rfl
  case write16 a v =>
    rw [perform, Memory.write16, guarded_of_fits h]
    rfl
  case readBlock a n =>
    rw [perform, readBlock_eq (Int.natCast_nonneg n), if_pos h, Int.toNat_natCast,
      block_eq_map h]
    rfl
  case loadSegment a data =>
    rw [perform, Memory.loadSegment, guarded_of_fits h, values, map_lowByte_byteValue]
    rfl

/-- What every access does where it does not fit. -/
theorem Access.perform_of_not_fits {x : Access} (h : ¬ Fits size x.address x.width)
    (m : Memory size) : x.perform m = (.error (.outOfBounds x.address), m) := by
  cases x <;> simp only [address, width] at h ⊢ <;>
    simp only [perform, Memory.read8, Memory.read16, Memory.write8, Memory.write16,
      Memory.readBlock, Memory.loadSegment, guarded_of_not_fits h] <;> rfl

theorem Access.get_perform_of_outside {x : Access} {c : Nat}
    (h : (c : Int) < x.address ∨ x.address + x.width ≤ c) (m : Memory size) :
    (x.perform m).2.get c = m.get c := by
  by_cases hx : Fits size x.address x.width
  · have hlength := x.length_values_le
    have h₀ := hx.1
    rw [perform_of_fits hx]
    apply get_setAll_of_outside
    rw [List.length_map]
    omega
  · rw [perform_of_not_fits hx]

/-! ## Byte by byte -/

theorem read8_of_fits {a : Int} (h : Fits size a 1) (m : Memory size) :
    m.read8 a = .ok (m.get a.toNat) := guarded_of_fits h _

theorem write8_of_fits {a : Int} (h : Fits size a 1) (m : Memory size) (v : Int) :
    m.write8 a v = .ok (m.set a.toNat (lowByte v)) := guarded_of_fits h _

/-- Where a row of numbers fits, to store them one after the other is to store them all. -/
theorem writeEach_upwards {a : Int} {vs : List Int} (h : Fits size a vs.length)
    (m : Memory size) :
    m.writeEach (upwards a vs) = .ok (m.setAll a.toNat (vs.map lowByte)) := by
  induction vs generalizing m a with
  | nil => rfl
  | cons v vs ih =>
      obtain ⟨h₀, hn⟩ := h
      rw [List.length_cons] at hn
      rw [writeEach, upwards, List.foldlM_cons, write8_of_fits ⟨h₀, by omega⟩, ok_bind]
      rw [← writeEach, ih ⟨by omega, by omega⟩, toNat_next h₀]
      rfl

theorem write16_eq_bind {a : Int} (h : Fits size a 2) (m : Memory size) (v : Int) :
    m.write16 a v = m.write8 a (v / 256) >>= fun m' => m'.write8 (a + 1) v := by
  have hboth : m.writeEach (upwards a [v / 256, v]) =
      .ok (m.setAll a.toNat [lowByte (v / 256), lowByte v]) := writeEach_upwards h m
  rw [writeEach, upwards, List.foldlM_cons] at hboth
  rw [write16, guarded_of_fits h]
  -- The row ends with a store after which nothing is left to do.
  refine Eq.trans hboth.symm (congrArg _ (funext fun m' => ?_))
  exact bind_pure _

theorem loadSegment_eq_writeEach {a : Int} {data : List UInt8} (h : Fits size a data.length)
    (m : Memory size) : m.loadSegment a data = m.writeEach (upwards a (data.map byteValue)) := by
  rw [writeEach_upwards (by rwa [List.length_map]), map_lowByte_byteValue, loadSegment,
    guarded_of_fits h]

theorem read16_eq_bind {a : Int} (h : Fits size a 2) (m : Memory size) :
    m.read16 a = do return (← m.read8 a).toNat * 256 + (← m.read8 (a + 1)).toNat := by
  have hword : m.read16 a = .ok (m.wordAt a.toNat) := guarded_of_fits h _
  obtain ⟨h₀, hn⟩ := h
  rw [read8_of_fits ⟨h₀, by omega⟩, read8_of_fits ⟨by omega, by omega⟩, ok_bind, ok_bind,
    hword, wordAt, toNat_next h₀]
  rfl

theorem readBlock_eq_mapM {a : Int} {n : Nat} (h : Fits size a n) (m : Memory size) :
    m.readBlock a n = (List.range n).mapM fun k : Nat => m.read8 (a + k) := by
  have heach : ∀ k ∈ List.range n,
      m.read8 (a + (k : Int)) = .ok (m.get (a + (k : Int)).toNat) := by
    intro k hk
    obtain ⟨h₀, hn⟩ := h
    have hlt := List.mem_range.1 hk
    exact read8_of_fits ⟨by omega, by omega⟩ m
  rw [mapM_eq_ok_map heach, readBlock_eq (Int.natCast_nonneg n), if_pos h, Int.toNat_natCast,
    block_eq_map h]

/-! ## The record of what was stored -/

theorem byteAfter_append (before stores : List (Int × Int)) (a : Int) :
    byteAfter (before ++ stores) a =
      ((stores.reverse.lookup a).map lowByte).getD (byteAfter before a) := by
  rw [byteAfter, List.reverse_append, List.lookup_append]
  cases stores.reverse.lookup a <;> rfl

theorem get_setAll_upwards (m : Memory size) {a : Int} {vs : List Int}
    (h : Fits size a vs.length) (c : Nat) :
    (m.setAll a.toNat (vs.map lowByte)).get c =
      (((upwards a vs).reverse.lookup (c : Int)).map lowByte).getD (m.get c) := by
  induction vs generalizing m a with
  | nil => rfl
  | cons v vs ih =>
      obtain ⟨h₀, hn⟩ := h
      rw [List.length_cons] at hn
      rw [List.map_cons, setAll, ← toNat_next h₀, ih _ ⟨by omega, by omega⟩, upwards,
        List.reverse_cons, List.lookup_append, get_set]
      -- The first number of the row counts only where none of the later ones went.
      cases (upwards (a + 1) vs).reverse.lookup (c : Int) with
      | some w => rfl
      | none =>
          by_cases hc : a.toNat = c
          · have heq : (c : Int) = a := by omega
            rw [if_pos ⟨hc, by omega⟩, heq, List.lookup_cons_self]
            rfl
          · have hne : ((c : Int) == a) = false := by
              rw [beq_eq_false_iff_ne]
              omega
            rw [if_neg fun hboth => hc hboth.1, List.lookup_cons, hne]
            rfl

/-- Every byte of a memory is the one that a record of stores gives. -/
def Remembers (m : Memory size) (stores : List (Int × Int)) : Prop :=
  ∀ c : Nat, c < size → m.get c = byteAfter stores c

theorem remembers_blank (size : Nat) : (blank size).Remembers [] := fun c _ => get_blank c

section

variable {m : Memory size} {stores : List (Int × Int)}

theorem Remembers.perform (h : m.Remembers stores) (x : Access) :
    (x.perform m).2.Remembers (stores ++ x.stores size) := by
  intro c hc
  rw [Access.stores]
  by_cases hx : Fits size x.address x.width
  · have hvalues : Fits size x.address x.values.length := by
      have hlength := x.length_values_le
      obtain ⟨h₀, hn⟩ := hx
      exact ⟨h₀, by omega⟩
    rw [Access.perform_of_fits hx, if_pos hx, byteAfter_append, get_setAll_upwards m hvalues,
      h c hc]
  · rw [Access.perform_of_not_fits hx, if_neg hx, List.append_nil]
    exact h c hc

theorem Remembers.afterAll (h : m.Remembers stores) (history : List Access) :
    (m.afterAll history).Remembers (stores ++ stored size history) := by
  induction history generalizing m stores with
  | nil =>
      rw [stored, List.flatMap_nil, List.append_nil]
      exact h
  | cons x history ih =>
      rw [stored, List.flatMap_cons, ← List.append_assoc]
      exact ih (h.perform x)

theorem Remembers.get (h : m.Remembers stores) {a : Int} (ha : 0 ≤ a ∧ a < size) :
    m.get a.toNat = byteAfter stores a := by
  have hbyte := h a.toNat (by omega)
  rwa [Int.toNat_of_nonneg ha.1] at hbyte

/-- An access that fits looks at no byte outside. -/
theorem Remembers.answer (h : m.Remembers stores) {x : Access}
    (hx : Fits size x.address x.width) :
    (x.answer fun a => m.get a.toNat) = x.answer (byteAfter stores) := by
  obtain ⟨h₀, hn⟩ := hx
  cases x with
  | read8 a =>
      simp only [Access.address, Access.width] at h₀ hn
      rw [Access.answer, Access.answer, h.get ⟨h₀, by omega⟩]
  | read16 a =>
      simp only [Access.address, Access.width] at h₀ hn
      rw [Access.answer, Access.answer, h.get ⟨h₀, by omega⟩, h.get ⟨by omega, by omega⟩]
  | readBlock a length =>
      simp only [Access.address, Access.width] at h₀ hn
      rw [Access.answer, Access.answer]
      congr 1
      apply List.map_congr_left
      intro k hk
      have hlt := List.mem_range.1 hk
      exact h.get ⟨by omega, by omega⟩
  | write8 a v => rfl
  | write16 a v => rfl
  | loadSegment a data => rfl

end

/-! ## After any history -/

/-- A memory is a bounded map from addresses to bytes, and a record of stores says which. An
access is let in exactly if all its bytes are inside; it is answered from the map, and where it
is refused nothing happens. The wider accesses are made of the narrow ones, and none of them
reaches beyond its own bytes. -/
structure IsByteMap (m : Memory size) (stores : List (Int × Int)) : Prop where
  accepted : ∀ x : Access, (∃ answer, (x.perform m).1 = .ok answer) ↔
    0 ≤ x.address ∧ x.address + x.width ≤ size
  refused : ∀ x : Access, ¬ (0 ≤ x.address ∧ x.address + x.width ≤ size) →
    x.perform m = (.error (.outOfBounds x.address), m)
  answered : ∀ x : Access, 0 ≤ x.address → x.address + x.width ≤ size →
    (x.perform m).1 = .ok (x.answer (byteAfter stores))
  read8 : ∀ a : Int, 0 ≤ a → a < size → m.read8 a = .ok (byteAfter stores a)
  read16 : ∀ a : Int, 0 ≤ a → a + 2 ≤ size →
    m.read16 a = do return (← m.read8 a).toNat * 256 + (← m.read8 (a + 1)).toNat
  write16 : ∀ a v : Int, 0 ≤ a → a + 2 ≤ size →
    m.write16 a v = m.write8 a (v / 256) >>= fun m' => m'.write8 (a + 1) v
  readBlock : ∀ (a : Int) (n : Nat), 0 ≤ a → a + n ≤ size →
    m.readBlock a n = (List.range n).mapM fun k : Nat => m.read8 (a + k)
  loadSegment : ∀ (a : Int) (data : List UInt8), 0 ≤ a → a + data.length ≤ size →
    m.loadSegment a data = m.writeEach (upwards a (data.map byteValue))
  outside : ∀ (x : Access) (c : Int), c < x.address ∨ x.address + x.width ≤ c →
    (x.perform m).2.read8 c = m.read8 c
  bytes : ∀ x : Access, (x.perform m).2.bytes.length = size

/-- Whatever was tried on a memory before, each of its bytes is the last one that was stored
there, and it answers every access like the map of these bytes. -/
theorem last_stored_remembered (size : Nat) (history : List Access) :
    ((blank size).afterAll history).IsByteMap (stored size history) := by
  have h : ((blank size).afterAll history).Remembers (stored size history) :=
    (remembers_blank size).afterAll history
  generalize (blank size).afterAll history = m at h ⊢
  constructor
  case accepted =>
    intro x
    refine ⟨fun hok => ?_, fun hx => ⟨_, congrArg Prod.fst (Access.perform_of_fits hx m)⟩⟩
    by_contra hx
    obtain ⟨answer, hanswer⟩ := hok
    rw [Access.perform_of_not_fits hx] at hanswer
    cases hanswer
  case refused => exact fun x hx => Access.perform_of_not_fits hx m
  case answered =>
    intro x h₀ hn
    rw [Access.perform_of_fits ⟨h₀, hn⟩, h.answer ⟨h₀, hn⟩]
  case read8 =>
    intro a h₀ hn
    rw [read8_of_fits ⟨h₀, by omega⟩, h.get ⟨h₀, hn⟩]
  case read16 => exact fun a h₀ hn => read16_eq_bind ⟨h₀, hn⟩ m
  case write16 => exact fun a v h₀ hn => write16_eq_bind ⟨h₀, hn⟩ m v
  case readBlock => exact fun a n h₀ hn => readBlock_eq_mapM ⟨h₀, hn⟩ m
  case loadSegment => exact fun a data h₀ hn => loadSegment_eq_writeEach ⟨h₀, hn⟩ m
  case outside =>
    intro x c hc
    by_cases hfits : Fits size c 1
    · rw [read8_of_fits hfits, read8_of_fits hfits,
        Access.get_perform_of_outside (by have := hfits.1; omega)]
    · rw [Memory.read8, Memory.read8, guarded_of_not_fits hfits, guarded_of_not_fits hfits]
  case bytes => exact fun x => Vector.length_toList

/-- A word that would reach past the end leaves no half of it. -/
example :
    ((blank 3).afterAll [.write8 0 0x1AB, .write16 1 0x1234, .write16 2 0xFFFF]).bytes =
      [0xAB, 0x12, 0x34] := by
  decide

end ChipEight.Memory
