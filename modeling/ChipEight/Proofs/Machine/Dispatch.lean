import ChipEight.Proofs.Machine.Action

/-!
# The executor's choice

The executor goes by the fields of an instruction, branch by branch, and in two families it has
asked the machine for something before it looks at the selector. Here it is held against the
operation that the fields select: it carries that operation out, and where there is none it
refuses the instruction, with what it has asked for done.
-/

namespace ChipEight

open Machine Exec

/-- A machine that has refused an instruction. Only the key family asks for something before
it looks at the selector. -/
def Machine.refusing (m : Machine) (i : Instruction) : Machine :=
  if i.op = 0xE then { m with keys := { m.keys with polls := m.keys.polls + 1 } } else m

namespace Instruction

variable {i : Instruction} {o : Operation}

/-- An instruction is executed as the operation that its fields select. -/
theorem execute_of_some (h : i.operation? = some o) : i.execute = o.execute := by
  obtain ⟨word, op, x, y, n, nn, nnn⟩ := i
  unfold operation? at h
  dsimp only at h
  split at h
  case h_1 =>
    unfold systemOperation? at h
    dsimp only at h
    split at h <;> cases h <;> rfl
  case h_9 =>
    obtain ⟨f, hf, rfl⟩ := Option.map_eq_some_iff.1 h
    unfold Arithmetic.ofSelector? at hf
    split at hf <;> cases hf <;> rfl
  case h_15 =>
    unfold keyOperation? at h
    dsimp only at h
    split at h <;> cases h
    · rfl
    · -- the skip turns the answer around before it goes on with it
      show (keyMatches x >>= fun isDown => skipIf !isDown) =
        (keyMatches x >>= fun isDown => pure !isDown) >>= skipIf
      simp only [bind_assoc, pure_bind]
  case h_16 =>
    unfold miscOperation? at h
    dsimp only at h
    split at h <;> cases h <;> rfl
  case h_17 => cases h
  all_goals
    cases h
    rfl

/-- An instruction whose fields select no operation is refused by every machine. -/
theorem execute_of_none (h : i.operation? = none) (hx : IsNibble i.x) (hy : IsNibble i.y)
    (m : Machine) :
    i.execute m =
      .error (.unknownInstruction i.word (if i.op = 0x8 then none else some m.pc))
        (m.refusing i) := by
  obtain ⟨word, op, x, y, n, nn, nnn⟩ := i
  rcases operation?_eq_none_iff.1 h with ⟨rfl, h⟩ | ⟨rfl, h⟩ | ⟨rfl, h⟩ | ⟨rfl, h⟩ | hop
  · show executeSystem _ m = .error (.unknownInstruction word (some m.pc)) m
    unfold executeSystem
    dsimp only
    split
    case h_3 => rfl
    all_goals simp_all [systemSelectors]
  · show executeArithmetic _ m = _
    unfold executeArithmetic
    rw [bind_of_ok (readRegister_of_nibble hx m), bind_of_ok (readRegister_of_nibble hy m)]
    dsimp only
    split
    case h_10 => rfl
    all_goals simp_all [arithmeticSelectors]
  · show executeKeys _ m = _
    unfold executeKeys
    rw [bind_of_ok (keyMatches_of_nibble hx m)]
    dsimp only
    split
    case h_3 => rfl
    all_goals simp_all [keySelectors]
  · show executeMisc _ m = _
    unfold executeMisc
    dsimp only
    split
    case h_10 => rfl
    all_goals simp_all [miscSelectors]
  · dsimp only at hop
    have h₈ : op ≠ 0x8 := by omega
    have hE : op ≠ 0xE := by omega
    rw [Machine.refusing, if_neg h₈, if_neg hE]
    unfold execute
    dsimp only
    split
    case h_17 => rfl
    all_goals omega

end Instruction

end ChipEight
