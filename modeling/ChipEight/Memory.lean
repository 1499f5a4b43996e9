import ChipEight.Fault
import ChipEight.Word

/-!
# Byte-addressable memory

Every access goes through one rule: `width` bytes at an address fit when the
address is not negative and the last of them is inside. An access that does not
fit is refused before any byte is touched, so a refused store leaves the memory
as it was.

`get` is the view under which the other operations are to be understood: what
a store does is said by `get_set`, and nothing later needs the cells.
-/

namespace ChipEight

/-- A memory of `size` bytes. -/
structure Memory (size : Nat) where
  cells : Vector UInt8 size
  deriving DecidableEq

namespace Memory

variable {size : Nat}

/-- The bounds rule: `width` bytes at `address` lie inside. -/
def Fits (size : Nat) (address width : Int) : Prop :=
  0 ≤ address ∧ address + width ≤ size

instance (size : Nat) (address width : Int) : Decidable (Fits size address width) :=
  inferInstanceAs (Decidable (_ ∧ _))

/-- Memory before anything was stored. -/
def blank (size : Nat) : Memory size := ⟨Vector.replicate size 0⟩

/-- The byte at an address, zero outside. -/
def get (m : Memory size) (a : Nat) : UInt8 := m.cells[a]?.getD 0

/-- Memory with one byte stored; a store outside changes nothing. -/
def set (m : Memory size) (a : Nat) (b : UInt8) : Memory size :=
  ⟨m.cells.setIfInBounds a b⟩

/-- Memory with bytes stored one after the other, from `a` upwards. -/
def setAll (m : Memory size) (a : Nat) : List UInt8 → Memory size
  | [] => m
  | b :: bs => (m.set a b).setAll (a + 1) bs

/-- The `count` bytes from `a` upwards. -/
def span (m : Memory size) (a count : Nat) : List UInt8 :=
  (List.range' a count).map m.get

/-- All bytes, in the order of their addresses. -/
def bytes (m : Memory size) : List UInt8 := m.cells.toList

@[simp] theorem get_blank (a : Nat) : (blank size).get a = 0 := by
  by_cases h : a < size <;> simp [blank, get, h]

theorem get_set (m : Memory size) (a : Nat) (b : UInt8) (c : Nat) :
    (m.set a b).get c = if a = c ∧ a < size then b else m.get c := by
  by_cases h : a = c
  · subst h
    by_cases ha : a < size <;> simp [set, get, ha]
  · simp [set, get, h]

@[simp] theorem length_span (m : Memory size) (a count : Nat) :
    (m.span a count).length = count := by
  simp [span]

/-- Runs `f` where the access fits and refuses it elsewhere. -/
def guarded {α : Type} (size : Nat) (address width : Int) (f : Nat → α) : Except Fault α :=
  if Fits size address width then .ok (f address.toNat) else .error (.outOfBounds address)

/-- The byte at an address. -/
def read8 (m : Memory size) (address : Int) : Except Fault UInt8 :=
  guarded size address 1 m.get

/-- The big-endian word at an address. -/
def wordAt (m : Memory size) (a : Nat) : Nat :=
  (m.get a).toNat * 256 + (m.get (a + 1)).toNat

/-- The big-endian word at an address. -/
def read16 (m : Memory size) (address : Int) : Except Fault Nat :=
  guarded size address 2 m.wordAt

/-- Stores the low eight bits of a value. -/
def write8 (m : Memory size) (address value : Int) : Except Fault (Memory size) :=
  guarded size address 1 fun a => m.set a (lowByte value)

/-- Stores the low sixteen bits of a value, high byte first. -/
def write16 (m : Memory size) (address value : Int) : Except Fault (Memory size) :=
  guarded size address 2 fun a => m.setAll a [lowByte (value / 256), lowByte value]

/-- Where a block ends: an end in front of the memory counts back from its top. -/
def blockEnd (size : Nat) (address length : Int) : Nat :=
  if address + length < 0 then (address + length + size).toNat
  else (address + length).toNat

/-- The block of `length` bytes at an address. A block whose end lies before its
start is empty. -/
def readBlock (m : Memory size) (address length : Int) : Except Fault (List UInt8) :=
  guarded size address length fun a =>
    m.span a (min (blockEnd size address length) size - a)

/-- Stores all bytes from an address upwards, or none. -/
def loadSegment (m : Memory size) (address : Int) (data : List UInt8) :
    Except Fault (Memory size) :=
  guarded size address data.length fun a => m.setAll a data

end Memory

end ChipEight
