import ChipEight.Proofs.Instruction.Operation

/-!
# The instruction patterns

The table of the instruction set as one would print it: thirty-four patterns,
each of them the top digit of a word with nothing else, with the low digit or
with the low byte. `operation?` never sees this table. It reads an
instruction's fields, family by family, and the main statement here says that
the two agree: a word selects an operation exactly when it has the operation's
pattern and carries its operands.

Two things follow that the machine relies on. The words that decode are the
words of the table, and the operands of a decoded operation are as wide as the
digits they were taken from.
-/

namespace ChipEight

/-- A pattern for words of sixteen bits, by hexadecimal digits. -/
inductive Pattern where
  /-- Every word with this top digit. -/
  | family (top : Nat)
  /-- The words with this top digit and this low digit. -/
  | digit (top low : Nat)
  /-- The words with this top digit and this low byte. -/
  | byte (top low : Nat)
  deriving DecidableEq, Repr

/-- Whether a word has a pattern. -/
def Pattern.Matches : Pattern → Nat → Prop
  | family top, w => w / 4096 = top
  | digit top low, w => w / 4096 = top ∧ w % 16 = low
  | byte top low, w => w / 4096 = top ∧ w % 256 = low

instance (p : Pattern) (w : Nat) : Decidable (p.Matches w) :=
  match p with
  | .family top => inferInstanceAs (Decidable (w / 4096 = top))
  | .digit top low => inferInstanceAs (Decidable (w / 4096 = top ∧ w % 16 = low))
  | .byte top low => inferInstanceAs (Decidable (w / 4096 = top ∧ w % 256 = low))

/-- The patterns of all instructions. -/
def Pattern.table : List Pattern := [
  byte 0x0 0xE0, byte 0x0 0xEE,
  family 0x1, family 0x2, family 0x3, family 0x4, family 0x5, family 0x6, family 0x7,
  digit 0x8 0x0, digit 0x8 0x1, digit 0x8 0x2, digit 0x8 0x3, digit 0x8 0x4,
  digit 0x8 0x5, digit 0x8 0x6, digit 0x8 0x7, digit 0x8 0xE,
  family 0x9, family 0xA, family 0xB, family 0xC, family 0xD,
  byte 0xE 0x9E, byte 0xE 0xA1,
  byte 0xF 0x07, byte 0xF 0x0A, byte 0xF 0x15, byte 0xF 0x18, byte 0xF 0x1E,
  byte 0xF 0x29, byte 0xF 0x33, byte 0xF 0x55, byte 0xF 0x65]

/-- The words that are instructions. -/
def IsInstruction (w : Nat) : Prop := ∃ p ∈ Pattern.table, p.Matches w

instance (w : Nat) : Decidable (IsInstruction w) :=
  inferInstanceAs (Decidable (∃ p ∈ Pattern.table, p.Matches w))

/-- The low digit that selects an operation on two registers. -/
def Arithmetic.selector : Arithmetic → Nat
  | copy => 0x0
  | or => 0x1
  | and => 0x2
  | xor => 0x3
  | add => 0x4
  | sub => 0x5
  | shiftRight => 0x6
  | subFrom => 0x7
  | shiftLeft => 0xE

/-- The pattern of a skip. -/
def Condition.pattern : Condition → Pattern
  | equalsByte .. => .family 0x3
  | differsFromByte .. => .family 0x4
  | equalsRegister .. => .family 0x5
  | differsFromRegister .. => .family 0x9
  | keyHeld _ => .byte 0xE 0x9E
  | keyNotHeld _ => .byte 0xE 0xA1

/-- The pattern of an operation. -/
def Operation.pattern : Operation → Pattern
  | clearScreen => .byte 0x0 0xE0
  | ret => .byte 0x0 0xEE
  | jump _ => .family 0x1
  | call _ => .family 0x2
  | skip c => c.pattern
  | loadByte .. => .family 0x6
  | addByte .. => .family 0x7
  | arithmetic f .. => .digit 0x8 f.selector
  | loadIndex _ => .family 0xA
  | jumpOffset _ => .family 0xB
  | random .. => .family 0xC
  | draw .. => .family 0xD
  | readDelay _ => .byte 0xF 0x07
  | awaitKey _ => .byte 0xF 0x0A
  | setDelay _ => .byte 0xF 0x15
  | setSound _ => .byte 0xF 0x18
  | addIndex _ => .byte 0xF 0x1E
  | pointAtGlyph _ => .byte 0xF 0x29
  | storeDigits _ => .byte 0xF 0x33
  | storeRegisters _ => .byte 0xF 0x55
  | loadRegisters _ => .byte 0xF 0x65

/-- Whether a word carries the operands of a skip. -/
def Condition.CarriedBy : Condition → Nat → Prop
  | equalsByte x v, w => x = (w / 256 % 16 : Nat) ∧ v = (w % 256 : Nat)
  | differsFromByte x v, w => x = (w / 256 % 16 : Nat) ∧ v = (w % 256 : Nat)
  | equalsRegister x y, w => x = (w / 256 % 16 : Nat) ∧ y = (w / 16 % 16 : Nat)
  | differsFromRegister x y, w => x = (w / 256 % 16 : Nat) ∧ y = (w / 16 % 16 : Nat)
  | keyHeld x, w => x = (w / 256 % 16 : Nat)
  | keyNotHeld x, w => x = (w / 256 % 16 : Nat)

/-- Whether a word carries the operands of an operation. -/
def Operation.CarriedBy : Operation → Nat → Prop
  | clearScreen, _ => True
  | ret, _ => True
  | jump a, w => a = (w % 4096 : Nat)
  | call a, w => a = (w % 4096 : Nat)
  | skip c, w => c.CarriedBy w
  | loadByte x v, w => x = (w / 256 % 16 : Nat) ∧ v = (w % 256 : Nat)
  | addByte x v, w => x = (w / 256 % 16 : Nat) ∧ v = (w % 256 : Nat)
  | arithmetic _ x y, w => x = (w / 256 % 16 : Nat) ∧ y = (w / 16 % 16 : Nat)
  | loadIndex a, w => a = (w % 4096 : Nat)
  | jumpOffset a, w => a = (w % 4096 : Nat)
  | random x v, w => x = (w / 256 % 16 : Nat) ∧ v = (w % 256 : Nat)
  | draw x y n, w =>
      x = (w / 256 % 16 : Nat) ∧ y = (w / 16 % 16 : Nat) ∧ n = (w % 16 : Nat)
  | readDelay x, w => x = (w / 256 % 16 : Nat)
  | awaitKey x, w => x = (w / 256 % 16 : Nat)
  | setDelay x, w => x = (w / 256 % 16 : Nat)
  | setSound x, w => x = (w / 256 % 16 : Nat)
  | addIndex x, w => x = (w / 256 % 16 : Nat)
  | pointAtGlyph x, w => x = (w / 256 % 16 : Nat)
  | storeDigits x, w => x = (w / 256 % 16 : Nat)
  | storeRegisters x, w => x = (w / 256 % 16 : Nat)
  | loadRegisters x, w => x = (w / 256 % 16 : Nat)

/-- Whether a word of sixteen bits is one of the words for an operation. -/
structure Operation.EncodedBy (o : Operation) (w : Nat) : Prop where
  lt : w < 65536
  pattern : o.pattern.Matches w
  operands : o.CarriedBy w

/-! ## Words put together from digits -/

/-- The word with two digits in front of a low byte. -/
def wordOfDigits (top : Nat) (x : Fin 16) (low : Nat) : Nat := top * 4096 + x * 256 + low

section

variable {top low : Nat} {x y n : Fin 16}

theorem wordOfDigits_lt (htop : top < 16) (hlow : low < 256) :
    wordOfDigits top x low < 65536 := by
  rw [wordOfDigits]
  omega

theorem wordOfDigits_top (hlow : low < 256) : wordOfDigits top x low / 4096 = top := by
  rw [wordOfDigits]
  omega

theorem wordOfDigits_second (hlow : low < 256) : wordOfDigits top x low / 256 % 16 = x := by
  rw [wordOfDigits]
  omega

theorem wordOfDigits_third : wordOfDigits top x (y * 16 + n) / 16 % 16 = y := by
  rw [wordOfDigits]
  omega

theorem wordOfDigits_low (hlow : low < 256) : wordOfDigits top x low % 256 = low := by
  rw [wordOfDigits]
  omega

theorem digits_lt (y n : Fin 16) : (y : Nat) * 16 + n < 256 := by omega

/-- An operation that its low byte selects and that names one register. -/
theorem Operation.encodedBy_byte {o : Operation} (htop : top < 16) (hlow : low < 256)
    (hp : o.pattern = .byte top low)
    (hc : ∀ w, o.CarriedBy w ↔ (x : Int) = (w / 256 % 16 : Nat)) :
    o.EncodedBy (wordOfDigits top x low) where
  lt := wordOfDigits_lt htop hlow
  pattern := by
    rw [hp]
    exact ⟨wordOfDigits_top hlow, wordOfDigits_low hlow⟩
  operands := by
    rw [hc, wordOfDigits_second hlow]

end

/-! ## Words and fields -/

namespace Instruction

theorem ofWord_eq {w : Nat} (hw : w < 65536) :
    ofWord w =
      { word := w
        op := (w / 4096 : Nat)
        x := (w / 256 % 16 : Nat)
        y := (w / 16 % 16 : Nat)
        n := (w % 16 : Nat)
        nn := (w % 256 : Nat)
        nnn := (w % 4096 : Nat) } := by
  have h : (w : Int) % 65536 = w := by omega
  rw [ofWord, h]
  rfl

theorem ofSelector?_eq_some_iff {n : Int} {f : Arithmetic} :
    Arithmetic.ofSelector? n = some f ↔ n = f.selector := by
  constructor
  · intro h
    unfold Arithmetic.ofSelector? at h
    split at h <;> simp only [Option.some.injEq, reduceCtorEq] at h <;> subst h <;> rfl
  · rintro rfl
    cases f <;> rfl

/-- An operation that fields select has the pattern and the operands of any word
that the fields were cut from. -/
theorem matches_of_operation? {w : Nat} {i : Instruction} (hop : i.op = (w / 4096 : Nat))
    (hx : i.x = (w / 256 % 16 : Nat)) (hy : i.y = (w / 16 % 16 : Nat))
    (hn : i.n = (w % 16 : Nat)) (hnn : i.nn = (w % 256 : Nat))
    (hnnn : i.nnn = (w % 4096 : Nat)) {o : Operation} (h : i.operation? = some o) :
    o.pattern.Matches w ∧ o.CarriedBy w := by
  have top {k : Nat} (hk : i.op = k) : w / 4096 = k := by omega
  unfold operation? at h
  split at h
  case h_1 hk =>
    unfold systemOperation? at h
    split at h <;> cases h <;> exact ⟨⟨top hk, by omega⟩, trivial⟩
  case h_9 hk =>
    obtain ⟨f, hf, rfl⟩ := Option.map_eq_some_iff.1 h
    rw [ofSelector?_eq_some_iff] at hf
    exact ⟨⟨top hk, by omega⟩, hx, hy⟩
  case h_14 hk => cases h; exact ⟨top hk, hx, hy, hn⟩
  case h_15 hk =>
    unfold keyOperation? at h
    split at h <;> cases h <;> exact ⟨⟨top hk, by omega⟩, hx⟩
  case h_16 hk =>
    unfold miscOperation? at h
    split at h <;> cases h <;> exact ⟨⟨top hk, by omega⟩, hx⟩
  case h_17 => cases h
  case h_2 hk | h_3 hk | h_11 hk | h_12 hk => cases h; exact ⟨top hk, hnnn⟩
  case h_4 hk | h_5 hk | h_7 hk | h_8 hk | h_13 hk => cases h; exact ⟨top hk, hx, hnn⟩
  case h_6 hk | h_10 hk => cases h; exact ⟨top hk, hx, hy⟩

/-- A word selects the operation whose pattern and operands it has. -/
theorem operation?_of_matches {w : Nat} (hw : w < 65536) {o : Operation}
    (hp : o.pattern.Matches w) (hc : o.CarriedBy w) : (ofWord w).operation? = some o := by
  rw [ofWord_eq hw]
  cases o with
  | skip c =>
      cases c with
      | keyHeld x | keyNotHeld x =>
          obtain ⟨htop, hlow⟩ := hp
          rw [htop, hlow, hc]
          rfl
      | _ =>
          obtain ⟨rfl, rfl⟩ := hc
          rw [show w / 4096 = _ from hp]
          rfl
  | arithmetic f x y =>
      obtain ⟨htop, hlow⟩ := hp
      obtain ⟨rfl, rfl⟩ := hc
      rw [htop, hlow]
      show (Arithmetic.ofSelector? f.selector).map _ = _
      rw [ofSelector?_eq_some_iff.2 rfl]
      rfl
  | draw x y n =>
      obtain ⟨rfl, rfl, rfl⟩ := hc
      rw [show w / 4096 = _ from hp]
      rfl
  | loadByte x v | addByte x v | random x v =>
      obtain ⟨rfl, rfl⟩ := hc
      rw [show w / 4096 = _ from hp]
      rfl
  | jump a | call a | loadIndex a | jumpOffset a =>
      rw [show w / 4096 = _ from hp, hc]
      rfl
  | clearScreen | ret =>
      obtain ⟨htop, hlow⟩ := hp
      rw [htop, hlow]
      rfl
  | _ =>
      obtain ⟨htop, hlow⟩ := hp
      rw [htop, hlow, hc]
      rfl

/-- A word selects an operation exactly when it has the operation's pattern and
carries its operands. -/
theorem operation?_eq_some_iff {w : Nat} (hw : w < 65536) {o : Operation} :
    (ofWord w).operation? = some o ↔ o.pattern.Matches w ∧ o.CarriedBy w := by
  constructor
  · intro h
    rw [ofWord_eq hw] at h
    exact matches_of_operation? rfl rfl rfl rfl rfl rfl h
  · rintro ⟨hp, hc⟩
    exact operation?_of_matches hw hp hc

end Instruction

/-! ## The table and the operations -/

theorem Operation.pattern_mem_table (o : Operation) : o.pattern ∈ Pattern.table := by
  cases o with
  | skip c => cases c <;> simp [Operation.pattern, Condition.pattern, Pattern.table]
  | arithmetic f x y =>
      cases f <;> simp [Operation.pattern, Arithmetic.selector, Pattern.table]
  | _ => simp [Operation.pattern, Pattern.table]

/-- Every row of the table is the pattern of an operation, whatever the operands. -/
theorem Pattern.exists_operation (w : Nat) :
    ∀ p ∈ Pattern.table, ∃ o : Operation, o.pattern = p ∧ o.CarriedBy w := by
  simp only [Pattern.table, List.forall_mem_cons]
  exact ⟨⟨.clearScreen, rfl, trivial⟩, ⟨.ret, rfl, trivial⟩,
    ⟨.jump _, rfl, rfl⟩, ⟨.call _, rfl, rfl⟩,
    ⟨.skip (.equalsByte _ _), rfl, rfl, rfl⟩,
    ⟨.skip (.differsFromByte _ _), rfl, rfl, rfl⟩,
    ⟨.skip (.equalsRegister _ _), rfl, rfl, rfl⟩,
    ⟨.loadByte _ _, rfl, rfl, rfl⟩, ⟨.addByte _ _, rfl, rfl, rfl⟩,
    ⟨.arithmetic .copy _ _, rfl, rfl, rfl⟩, ⟨.arithmetic .or _ _, rfl, rfl, rfl⟩,
    ⟨.arithmetic .and _ _, rfl, rfl, rfl⟩, ⟨.arithmetic .xor _ _, rfl, rfl, rfl⟩,
    ⟨.arithmetic .add _ _, rfl, rfl, rfl⟩, ⟨.arithmetic .sub _ _, rfl, rfl, rfl⟩,
    ⟨.arithmetic .shiftRight _ _, rfl, rfl, rfl⟩,
    ⟨.arithmetic .subFrom _ _, rfl, rfl, rfl⟩,
    ⟨.arithmetic .shiftLeft _ _, rfl, rfl, rfl⟩,
    ⟨.skip (.differsFromRegister _ _), rfl, rfl, rfl⟩,
    ⟨.loadIndex _, rfl, rfl⟩, ⟨.jumpOffset _, rfl, rfl⟩,
    ⟨.random _ _, rfl, rfl, rfl⟩, ⟨.draw _ _ _, rfl, rfl, rfl, rfl⟩,
    ⟨.skip (.keyHeld _), rfl, rfl⟩, ⟨.skip (.keyNotHeld _), rfl, rfl⟩,
    ⟨.readDelay _, rfl, rfl⟩, ⟨.awaitKey _, rfl, rfl⟩, ⟨.setDelay _, rfl, rfl⟩,
    ⟨.setSound _, rfl, rfl⟩, ⟨.addIndex _, rfl, rfl⟩, ⟨.pointAtGlyph _, rfl, rfl⟩,
    ⟨.storeDigits _, rfl, rfl⟩, ⟨.storeRegisters _, rfl, rfl⟩,
    ⟨.loadRegisters _, rfl, rfl⟩, fun _ h => absurd h List.not_mem_nil⟩

/-- The words that select an operation are the words of the table. -/
theorem isInstruction_iff {w : Nat} (hw : w < 65536) :
    IsInstruction w ↔ ∃ o, (Instruction.ofWord w).operation? = some o := by
  constructor
  · rintro ⟨p, hp, hm⟩
    obtain ⟨o, rfl, hc⟩ := Pattern.exists_operation w p hp
    exact ⟨o, Instruction.operation?_of_matches hw hm hc⟩
  · rintro ⟨o, h⟩
    exact ⟨o.pattern, o.pattern_mem_table,
      ((Instruction.operation?_eq_some_iff hw).1 h).1⟩

/-! ## How wide operands are -/

/-- A value of one hexadecimal digit. -/
def IsNibble (v : Int) : Prop := 0 ≤ v ∧ v < 16

/-- A value of two digits. -/
def IsByte (v : Int) : Prop := 0 ≤ v ∧ v < 256

/-- A value of three digits. -/
def IsAddress (v : Int) : Prop := 0 ≤ v ∧ v < 4096

/-- The operands of a skip are as wide as a word has room for. -/
def Condition.InRange : Condition → Prop
  | equalsByte x v => IsNibble x ∧ IsByte v
  | differsFromByte x v => IsNibble x ∧ IsByte v
  | equalsRegister x y => IsNibble x ∧ IsNibble y
  | differsFromRegister x y => IsNibble x ∧ IsNibble y
  | keyHeld x => IsNibble x
  | keyNotHeld x => IsNibble x

/-- The operands of an operation are as wide as a word has room for. -/
def Operation.InRange : Operation → Prop
  | clearScreen => True
  | ret => True
  | jump a => IsAddress a
  | call a => IsAddress a
  | skip c => c.InRange
  | loadByte x v => IsNibble x ∧ IsByte v
  | addByte x v => IsNibble x ∧ IsByte v
  | arithmetic _ x y => IsNibble x ∧ IsNibble y
  | loadIndex a => IsAddress a
  | jumpOffset a => IsAddress a
  | random x v => IsNibble x ∧ IsByte v
  | draw x y n => IsNibble x ∧ IsNibble y ∧ IsNibble n
  | readDelay x => IsNibble x
  | awaitKey x => IsNibble x
  | setDelay x => IsNibble x
  | setSound x => IsNibble x
  | addIndex x => IsNibble x
  | pointAtGlyph x => IsNibble x
  | storeDigits x => IsNibble x
  | storeRegisters x => IsNibble x
  | loadRegisters x => IsNibble x

theorem isNibble_mod (k : Nat) : IsNibble (k % 16 : Nat) :=
  ⟨Int.natCast_nonneg _, by omega⟩

theorem isByte_mod (k : Nat) : IsByte (k % 256 : Nat) :=
  ⟨Int.natCast_nonneg _, by omega⟩

theorem isAddress_mod (k : Nat) : IsAddress (k % 4096 : Nat) :=
  ⟨Int.natCast_nonneg _, by omega⟩

theorem Condition.CarriedBy.inRange {c : Condition} {w : Nat} (h : c.CarriedBy w) :
    c.InRange := by
  cases c with
  | equalsByte x v | differsFromByte x v =>
      obtain ⟨rfl, rfl⟩ := h
      exact ⟨isNibble_mod _, isByte_mod _⟩
  | equalsRegister x y | differsFromRegister x y =>
      obtain ⟨rfl, rfl⟩ := h
      exact ⟨isNibble_mod _, isNibble_mod _⟩
  | keyHeld x | keyNotHeld x =>
      obtain rfl := h
      exact isNibble_mod _

theorem Operation.CarriedBy.inRange {o : Operation} {w : Nat} (h : o.CarriedBy w) :
    o.InRange := by
  cases o with
  | clearScreen | ret => trivial
  | skip c => exact Condition.CarriedBy.inRange h
  | jump a | call a | loadIndex a | jumpOffset a =>
      obtain rfl := h
      exact isAddress_mod _
  | loadByte x v | addByte x v | random x v =>
      obtain ⟨rfl, rfl⟩ := h
      exact ⟨isNibble_mod _, isByte_mod _⟩
  | arithmetic f x y =>
      obtain ⟨rfl, rfl⟩ := h
      exact ⟨isNibble_mod _, isNibble_mod _⟩
  | draw x y n =>
      obtain ⟨rfl, rfl, rfl⟩ := h
      exact ⟨isNibble_mod _, isNibble_mod _, isNibble_mod _⟩
  | _ =>
      obtain rfl := h
      exact isNibble_mod _

end ChipEight
