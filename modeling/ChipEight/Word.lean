/-!
# Cells of eight and sixteen bits

Arithmetic in this library is done on integers, and a cell keeps what its width
can hold. Both cuts are remainders by a power of two, so they treat a negative
number as its two's complement.
-/

namespace ChipEight

/-- The low eight bits. -/
def lowByte (v : Int) : UInt8 := UInt8.ofNat (v % 256).toNat

/-- The low sixteen bits. -/
def lowWord (v : Int) : UInt16 := UInt16.ofNat (v % 65536).toNat

/-- A byte read as a number. -/
def byteValue (b : UInt8) : Int := b.toNat

theorem lowByte_toNat (v : Int) : ((lowByte v).toNat : Int) = v % 256 := by
  simp only [lowByte, UInt8.toNat_ofNat']
  omega

theorem lowWord_toNat (v : Int) : ((lowWord v).toNat : Int) = v % 65536 := by
  simp only [lowWord, UInt16.toNat_ofNat']
  omega

theorem lowByte_byteValue (b : UInt8) : lowByte (byteValue b) = b := by
  apply UInt8.toNat.inj
  have := lowByte_toNat (byteValue b)
  have := b.toNat_lt
  simp only [byteValue] at *
  omega

end ChipEight
