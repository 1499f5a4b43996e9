import ChipEight.Fault
import ChipEight.Word

/-!
# The register bank

Sixteen byte registers. The last one doubles as the flag that arithmetic and
drawing report in. An index from minus sixteen to minus one counts from the end
of the bank; any other index outside it names no register.
-/

namespace ChipEight

/-- Sixteen registers of eight bits. -/
structure Registers where
  cells : Vector UInt8 16
  deriving DecidableEq

namespace Registers

/-- The number of registers. -/
def count : Nat := 16

/-- The register that carries, borrows and collisions are reported in. -/
def flag : Int := 15

/-- All registers at zero. -/
def zero : Registers := ⟨Vector.replicate 16 0⟩

theorem toNat_lt_count {index : Int} (h : 0 ≤ index ∧ index < 16) : index.toNat < 16 := by
  omega

theorem toNat_add_lt_count {index : Int} (h : -16 ≤ index ∧ index < 0) :
    (index + 16).toNat < 16 := by
  omega

/-- The place of the register that an index names. -/
def slot? (index : Int) : Option (Fin 16) :=
  if h : 0 ≤ index ∧ index < 16 then some ⟨index.toNat, toNat_lt_count h⟩
  else if h : -16 ≤ index ∧ index < 0 then some ⟨(index + 16).toNat, toNat_add_lt_count h⟩
  else none

/-- The register at a place. -/
def get (r : Registers) (i : Fin 16) : UInt8 := r.cells[i]

/-- The bank with one register changed. -/
def set (r : Registers) (i : Fin 16) (b : UInt8) : Registers := ⟨r.cells.set i b⟩

/-- The values of all registers, in order. -/
def toList (r : Registers) : List UInt8 := r.cells.toList

theorem get_set (r : Registers) (i j : Fin 16) (b : UInt8) :
    (r.set i b).get j = if i = j then b else r.get j := by
  by_cases h : i = j
  · subst h; simp [set, get]
  · have : (i : Nat) ≠ j := fun e => h (Fin.ext e)
    simp [set, get, h, this]

/-- The value of the register an index names. -/
def read (r : Registers) (index : Int) : Except Fault UInt8 :=
  match slot? index with
  | some i => .ok (r.get i)
  | none => .error (.noSuchRegister .read)

/-- Stores the low eight bits of a value. -/
def write (r : Registers) (index value : Int) : Except Fault Registers :=
  match slot? index with
  | some i => .ok (r.set i (lowByte value))
  | none => .error (.noSuchRegister .write)

end Registers

end ChipEight
