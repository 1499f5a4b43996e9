import ChipEight.Machine.Run
import ChipEight.Proofs.Machine.Lockstep

/-!
# The journal is only written

A step notes a line when tracing is on, and nothing ever reads a line back. So
two machines that are alike in everything but their journals stay so: they find
the same operation, succeed or fail together and with the same fault, and are
alike again after it. What the lines say plays no part in this.

While tracing is off there is nothing to allow for, since then no line is kept.
-/

namespace ChipEight

theorem Journal.note_of_not_tracing {j : Journal} (h : j.tracing = false) (line : String) :
    j.note line = j := by
  rw [Journal.note, h]
  rfl

namespace Machine

/-- Two machines that differ in their journals at most. -/
def Alike (m m' : Machine) : Prop := ∃ j, m' = { m with journal := j }

theorem Alike.trans {m m' m'' : Machine} (h : m.Alike m') (h' : m'.Alike m'') :
    m.Alike m'' := by
  obtain ⟨j, rfl⟩ := h
  obtain ⟨j', rfl⟩ := h'
  exact ⟨j', rfl⟩

theorem alike_note (m : Machine) (line : String) : m.Alike (m.note line) := ⟨_, rfl⟩

/-! ## One step of both -/

theorem Alike.operation? {m m' : Machine} (h : m.Alike m') :
    m'.operation? = m.operation? := by
  obtain ⟨j, rfl⟩ := h
  rfl

theorem Alike.fault? {m m' : Machine} (h : m.Alike m') (o : Operation) :
    o.fault? m' = o.fault? m := by
  obtain ⟨j, rfl⟩ := h
  rfl

theorem Alike.fetchFault {m m' : Machine} (h : m.Alike m') :
    m'.fetchFault = m.fetchFault := by
  obtain ⟨j, rfl⟩ := h
  rfl

theorem Alike.completed {m m' : Machine} (h : m.Alike m') (o : Operation) :
    (m.completed o).Alike (m'.completed o) := by
  obtain ⟨j, rfl⟩ := h
  refine ⟨(Machine.completed { m with journal := j } o).journal, ?_⟩
  rw [Machine.completed, Machine.completed, advance, advance, tick_eq, tick_eq]
  cases o <;> rfl

theorem Alike.residue {m m' : Machine} (h : m.Alike m') (o : Operation) :
    (o.residue m.counted).Alike (o.residue m'.counted) := by
  obtain ⟨j, rfl⟩ := h
  refine ⟨(o.residue (Machine.counted { m with journal := j })).journal, ?_⟩
  cases o <;> rfl

/-- Machines that are alike succeed or fail together, and are alike again. -/
theorem Alike.step {m m' : Machine} (h : m.Alike m') :
    (∃ n n', Machine.step m = .ok () n ∧ Machine.step m' = .ok () n' ∧ n.Alike n') ∨
      ∃ f n n', Machine.step m = .error f n ∧ Machine.step m' = .error f n' ∧
        n.Alike n' := by
  cases ho : m.operation? with
  | none =>
      have ho' : m'.operation? = none := by rw [h.operation?, ho]
      refine Or.inr ⟨m.fetchFault, m, m', step_of_none ho, ?_, h⟩
      rw [step_of_none ho', h.fetchFault]
  | some o =>
      have ho' : m'.operation? = some o := by rw [h.operation?, ho]
      have hs := step_of_some ho
      have hs' := step_of_some ho'
      rw [h.fault? o] at hs'
      cases hf : o.fault? m with
      | none =>
          rw [hf] at hs hs'
          exact Or.inl ⟨_, _, hs, hs', h.completed o⟩
      | some f =>
          rw [hf] at hs hs'
          exact Or.inr ⟨f, _, _, hs, hs', h.residue o⟩

theorem lockstep_alike : Lockstep Alike where
  flags := by
    rintro m _ ⟨j, rfl⟩
    exact ⟨rfl, rfl⟩
  step _ _ h := h.step

theorem Alike.iterate_attempt {m m' : Machine} (h : m.Alike m') (k : Nat) :
    (Machine.attempt^[k] m).Alike (Machine.attempt^[k] m') :=
  lockstep_alike.iterate_attempt h k

/-! ## Tracing off -/

theorem journal_attempt {m : Machine} (h : m.journal.tracing = false) :
    m.attempt.journal = m.journal := by
  have hc : m.counted.journal = m.journal := Journal.note_of_not_tracing h _
  rcases m.attempt_cases with ⟨o, -, -, he⟩ | he | ⟨o, he⟩
  · rw [he, completed_eq]
    exact hc
  · rw [he]
  · rw [he, residue_eq]
    exact hc

theorem journal_iterate_attempt {m : Machine} (h : m.journal.tracing = false) (k : Nat) :
    (attempt^[k] m).journal = m.journal := by
  induction k with
  | zero => rfl
  | succ k ih =>
      rw [Function.iterate_succ_apply', journal_attempt (by rw [ih]; exact h), ih]

end Machine

end ChipEight
