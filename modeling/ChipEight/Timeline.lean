import ChipEight.Numeral.Number

/-!
# Times

Whatever keeps times only moves them on and takes differences of them. Either may
have no result, where times are kept as numbers of limited size.
-/

namespace ChipEight

/-- Times that can be moved on and compared by their distance. -/
class Timeline (τ : Type) where
  /-- A time so much later. -/
  later : τ → τ → Except ArithmeticFault τ
  /-- How much later the first time is than the second. -/
  since : τ → τ → Except ArithmeticFault τ

instance : Timeline Number := ⟨Number.sum, Number.difference⟩

end ChipEight
