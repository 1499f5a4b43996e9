import ChipEight.Proofs.Machine.Effect

/-!
# Skips come in pairs

A program branches by skipping the next instruction, and there are three things it can ask
for: whether a register holds a byte, whether two registers hold the same, and whether the key
that is held is the one a register names. Each question has two words, and what they promise
is that a program may use either: where one of them skips the other does not.

A key is no exception, although nothing says that a register names one. The value of the
register is compared as it is, with all its eight bits, so a register that holds more than
fifteen names no key and the question has the answer that it has when no key is held. To ask
costs a poll of the input device. That is all the six of them do.
-/

namespace ChipEight

/-- The condition that holds where another one does not. -/
def Condition.opposite : Condition → Condition
  | equalsByte x v => differsFromByte x v
  | differsFromByte x v => equalsByte x v
  | equalsRegister x y => differsFromRegister x y
  | differsFromRegister x y => equalsRegister x y
  | keyHeld x => keyNotHeld x
  | keyNotHeld x => keyHeld x

/-- A condition looks at the registers and at the answer of the input device, so it is enough
that two machines agree in these. -/
theorem Condition.met_opposite (c : Condition) {m m' : Machine}
    (hregisters : m'.registers = m.registers) (hanswer : m'.keys.poll.1 = m.keys.poll.1) :
    c.opposite.met m' = !c.met m := by
  cases c <;>
    simp only [opposite, met, bne, Bool.not_not, Machine.holdsNamed, hregisters, hanswer]

namespace Machine

/-- A word carried out on a machine skips the next instruction if something is so, and goes
on with it if not; either way it leaves the same machine behind. -/
structure SkipsIf (w : Nat) (m : Machine) (p : Prop) (m' : Machine) : Prop where
  skips : p → (Instruction.ofWord w).execute m = .ok (m.pc + 4) m'
  passes : ¬p → (Instruction.ofWord w).execute m = .ok (m.pc + 2) m'

/-- What the six skips do on a machine. The first word of each pair asks and the second one
asks for the opposite. -/
structure SkipsInPairs (m : Machine) : Prop where
  byte : ∀ (x : Fin 16) (v : UInt8),
    SkipsIf (wordOfDigits 0x3 x v.toNat) m (m.registers.get x = v) m ∧
      SkipsIf (wordOfDigits 0x4 x v.toNat) m (m.registers.get x ≠ v) m
  register : ∀ x y n n' : Fin 16,
    SkipsIf (wordOfDigits 0x5 x (y * 16 + n)) m (m.registers.get x = m.registers.get y) m ∧
      SkipsIf (wordOfDigits 0x9 x (y * 16 + n')) m (m.registers.get x ≠ m.registers.get y) m
  key : ∀ (x : Fin 16) (i i' : KeyInput), i'.poll.1 = i.poll.1 →
    SkipsIf (wordOfDigits 0xE x 0x9E) { m with keys := i }
        (i.poll.1 = some (byteValue (m.registers.get x)))
        { m with keys := { i with polls := i.polls + 1 } } ∧
      SkipsIf (wordOfDigits 0xE x 0xA1) { m with keys := i' }
        (i.poll.1 ≠ some (byteValue (m.registers.get x)))
        { m with keys := { i' with polls := i'.polls + 1 } }
  noKey : ∀ (x : Fin 16) (i : KeyInput), 15 < byteValue (m.registers.get x) →
    (∀ key, i.poll.1 = some key → 0 ≤ key ∧ key < Keypad.keyCount) →
    (Instruction.ofWord (wordOfDigits 0xE x 0x9E)).execute { m with keys := i } =
      .ok (m.pc + 2) { m with keys := { i with polls := i.polls + 1 } }

/-! ## One condition and its opposite -/

section

variable {c : Condition} {w w' : Nat} {p : Prop}

theorem skipsIf_of_encodedBy {m : Machine} (h : (Operation.skip c).EncodedBy w)
    (hp : c.met m = true ↔ p) : SkipsIf w m p { m with keys := c.keysAfter m } := by
  have he : (Instruction.ofWord w).execute m =
      .ok (m.pc + if c.met m then 4 else 2) { m with keys := c.keysAfter m } :=
    (Instruction.execute_of_encodedBy h m).trans (Operation.outcome_of_none rfl)
  constructor
  case skips =>
    intro hyes
    rw [he, if_pos (hp.2 hyes)]
  case passes =>
    intro hno
    rw [he, if_neg (mt hp.1 hno)]

/-- The second machine has to agree with the first one only in what the condition looks at. -/
theorem skipsIf_pair (m m' : Machine) (h : (Operation.skip c).EncodedBy w)
    (h' : (Operation.skip c.opposite).EncodedBy w') (hp : c.met m = true ↔ p)
    (hregisters : m'.registers = m.registers) (hanswer : m'.keys.poll.1 = m.keys.poll.1) :
    SkipsIf w m p { m with keys := c.keysAfter m } ∧
      SkipsIf w' m' (¬p) { m' with keys := c.opposite.keysAfter m' } := by
  refine ⟨skipsIf_of_encodedBy h hp, skipsIf_of_encodedBy h' ?_⟩
  rw [c.met_opposite hregisters hanswer, Bool.not_eq_true', ← Bool.not_eq_true]
  exact not_congr hp

end

/-! ## The words -/

/-- The words that ask about a register and a byte. -/
theorem encodedBy_of_byte (x : Fin 16) (v : UInt8) :
    (Operation.skip (.equalsByte x v.toNat)).EncodedBy (wordOfDigits 0x3 x v.toNat) ∧
      (Operation.skip (.differsFromByte x v.toNat)).EncodedBy
        (wordOfDigits 0x4 x v.toNat) := by
  have hv : v.toNat < 256 := v.toNat_lt
  refine ⟨⟨wordOfDigits_lt (by decide) hv, wordOfDigits_top hv, ?_⟩,
    ⟨wordOfDigits_lt (by decide) hv, wordOfDigits_top hv, ?_⟩⟩
  all_goals
    show _ ∧ _
    rw [wordOfDigits_second hv, wordOfDigits_low hv]
    exact ⟨rfl, rfl⟩

/-- The words that ask about two registers, with any last digit. -/
theorem encodedBy_of_registers (x y n n' : Fin 16) :
    (Operation.skip (.equalsRegister x y)).EncodedBy (wordOfDigits 0x5 x (y * 16 + n)) ∧
      (Operation.skip (.differsFromRegister x y)).EncodedBy
        (wordOfDigits 0x9 x (y * 16 + n')) := by
  have hn := digits_lt y n
  have hn' := digits_lt y n'
  refine ⟨⟨wordOfDigits_lt (by decide) hn, wordOfDigits_top hn, ?_⟩,
    ⟨wordOfDigits_lt (by decide) hn', wordOfDigits_top hn', ?_⟩⟩
  all_goals
    show _ ∧ _
    rw [wordOfDigits_second (digits_lt _ _), wordOfDigits_third]
    exact ⟨rfl, rfl⟩

/-- The words that ask about the key that is held. -/
theorem encodedBy_of_key (x : Fin 16) :
    (Operation.skip (.keyHeld x)).EncodedBy (wordOfDigits 0xE x 0x9E) ∧
      (Operation.skip (.keyNotHeld x)).EncodedBy (wordOfDigits 0xE x 0xA1) :=
  ⟨Operation.encodedBy_byte (by decide) (by decide) rfl fun _ => Iff.rfl,
    Operation.encodedBy_byte (by decide) (by decide) rfl fun _ => Iff.rfl⟩

/-! ## What the conditions ask -/

section

variable {m : Machine}

theorem met_equalsByte (x : Fin 16) (v : UInt8) :
    (Condition.equalsByte x v.toNat).met m = true ↔ m.registers.get x = v := by
  rw [Condition.met, beq_iff_eq, Registers.named_val]
  exact Int.natCast_inj.trans UInt8.toNat_inj

theorem met_equalsRegister (x y : Fin 16) :
    (Condition.equalsRegister x y).met m = true ↔ m.registers.get x = m.registers.get y := by
  rw [Condition.met, beq_iff_eq, Registers.named_val, Registers.named_val]

theorem met_keyHeld (x : Fin 16) :
    (Condition.keyHeld x).met m = true ↔
      m.keys.poll.1 = some (byteValue (m.registers.get x)) := by
  rw [Condition.met, holdsNamed, Registers.named_val]
  cases m.keys.poll.1 with
  | none => simp only [Bool.false_eq_true, reduceCtorEq]
  | some key => rw [beq_iff_eq, Option.some_inj]

end

/-- The two words of each pair ask for opposite things: on any machine one of them skips the
next instruction and the other goes on with it, the first where what it asks for is so, and
nothing is changed but that the input device was polled by those that ask for a key. -/
theorem skips_in_pairs (m : Machine) : m.SkipsInPairs where
  byte x v := by
    obtain ⟨h, h'⟩ := encodedBy_of_byte x v
    exact skipsIf_pair m m h h' (met_equalsByte x v) rfl rfl
  register x y n n' := by
    obtain ⟨h, h'⟩ := encodedBy_of_registers x y n n'
    exact skipsIf_pair m m h h' (met_equalsRegister x y) rfl rfl
  key x i i' hanswer := by
    obtain ⟨h, h'⟩ := encodedBy_of_key x
    exact skipsIf_pair { m with keys := i } { m with keys := i' } h h' (met_keyHeld x) rfl
      hanswer
  noKey x i hx hkeys := by
    have hskips := skipsIf_of_encodedBy (encodedBy_of_key x).1
      (met_keyHeld (m := { m with keys := i }) x)
    refine hskips.passes fun hnamed => ?_
    have hkey : byteValue (m.registers.get x) < 16 := (hkeys _ hnamed).2
    omega

end Machine

end ChipEight
