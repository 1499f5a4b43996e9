import ChipEight.Proofs.Machine.Cycle
import Mathlib.Logic.Function.Iterate

/-!
# Machines that go in step

Two machines that differ only in what no step looks at do the same for ever. What is
common to all arguments of this kind is said here once: a relation between machines is a
`Lockstep` if it sees to it that they stand under the same requests to stop, succeed or
fail together and with the same fault, and are related again after that. That is one
step, and it is all that has to be shown.
-/

namespace ChipEight.Machine

/-- Related machines are asked for the same stops, and a step of both succeeds or fails
for both, with the same fault, and leaves them related. -/
structure Lockstep (R : Machine → Machine → Prop) : Prop where
  flags : ∀ m m', R m m' → m'.stopRequested = m.stopRequested ∧ m'.eventSet = m.eventSet
  step : ∀ m m', R m m' →
    (∃ n n', Machine.step m = .ok () n ∧ Machine.step m' = .ok () n' ∧ R n n') ∨
      ∃ f n n', Machine.step m = .error f n ∧ Machine.step m' = .error f n' ∧ R n n'

variable {R : Machine → Machine → Prop} {m m' : Machine}

theorem Lockstep.attempt (hR : Lockstep R) (h : R m m') : R m.attempt m'.attempt := by
  rcases hR.step m m' h with ⟨n, n', hs, hs', hn⟩ | ⟨f, n, n', hs, hs', hn⟩
  · rw [attempt_of_ok hs, attempt_of_ok hs']
    exact hn
  · rw [attempt_of_error hs, attempt_of_error hs']
    exact hn

theorem Lockstep.iterate_attempt (hR : Lockstep R) (h : R m m') (k : Nat) :
    R (Machine.attempt^[k] m) (Machine.attempt^[k] m') := by
  induction k with
  | zero => exact h
  | succ k ih =>
      rw [Function.iterate_succ_apply', Function.iterate_succ_apply']
      exact hR.attempt ih

theorem Lockstep.exists_ok_iff (hR : Lockstep R) (h : R m m') :
    (∃ n, Machine.step m' = .ok () n) ↔ ∃ n, Machine.step m = .ok () n := by
  rcases hR.step m m' h with ⟨n, n', hs, hs', -⟩ | ⟨f, n, n', hs, hs', -⟩
  · exact ⟨fun _ => ⟨n, hs⟩, fun _ => ⟨n', hs'⟩⟩
  · constructor
    · rintro ⟨_, hok⟩
      exact nomatch hs'.symm.trans hok
    · rintro ⟨_, hok⟩
      exact nomatch hs.symm.trans hok

theorem Lockstep.exists_error_iff (hR : Lockstep R) (h : R m m') {f : Fault} :
    (∃ n, Machine.step m' = .error f n) ↔ ∃ n, Machine.step m = .error f n := by
  rcases hR.step m m' h with ⟨n, n', hs, hs', -⟩ | ⟨g, n, n', hs, hs', -⟩
  · constructor
    · rintro ⟨_, hf⟩
      exact nomatch hs'.symm.trans hf
    · rintro ⟨_, hf⟩
      exact nomatch hs.symm.trans hf
  · constructor
    · rintro ⟨_, hf⟩
      cases hs'.symm.trans hf
      exact ⟨n, hs⟩
    · rintro ⟨_, hf⟩
      cases hs.symm.trans hf
      exact ⟨n', hs'⟩

end ChipEight.Machine
