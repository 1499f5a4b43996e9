import ChipEight.Proofs.Machine.Frames
import ChipEight.Proofs.Tally

/-!
# The ledger

A machine is counted from several sides. It counts instructions by name before it
carries them out and cycles after it has; its devices count the frames, polls and
bytes they were asked for; and the call stack has a depth. These are six books kept
in six places, and this file is where they are held against each other.

What they have in common is the list of the instructions that were begun, and the
list of those among them that broke off. `Accords` says what each book gains by two
such lists. A step begins nothing, and then no book changes, or it begins one
instruction, which may break off; the books of a run are the sums. An instruction
that fails is in both lists, and that makes good for the counts that run ahead of
it: depth and frames are corrected by those that broke off, while polls and random
bytes are never asked for by an instruction that fails.
-/

namespace ChipEight

namespace Random.Source

/-- The source after so many bytes were drawn. -/
def after (s : Source) (n : Nat) : Source := (fun s => s.draw.2)^[n] s

/-- The byte of a draw, the first being the zeroth. -/
def nth (s : Source) (i : Nat) : UInt8 := (s.after i).draw.1

theorem after_add (s : Source) (a b : Nat) : s.after (a + b) = (s.after a).after b := by
  rw [after, Nat.add_comm, Function.iterate_add_apply]
  rfl

theorem drawn_draw (s : Source) : s.draw.2.drawn = s.drawn + 1 := by
  obtain ⟨g, n⟩ := s
  cases g <;> rfl

theorem drawn_after (s : Source) (n : Nat) : (s.after n).drawn = s.drawn + n := by
  induction n with
  | zero => rfl
  | succ n ih =>
      rw [after_add, ← Nat.add_assoc, ← ih]
      exact (s.after n).drawn_draw

end Random.Source

namespace Machine

/-! ## Begun and broken off -/

/-- The name of the instruction that the next step decodes, if it decodes one. -/
def begins? (m : Machine) : Option String :=
  match fetch m with
  | .ok i _ => some i.mnemonic
  | .error _ _ => none

/-- The same name, if the step then fails. -/
def breaks? (m : Machine) : Option String :=
  match step m with
  | .ok _ _ => none
  | .error _ _ => m.begins?

/-- The names of the instructions that the first `n` calls of `step` decoded. -/
def begun (m : Machine) (n : Nat) : List String :=
  (List.range n).filterMap fun i => (attempt^[i] m).begins?

/-- The names of those among them that failed. -/
def broken (m : Machine) (n : Nat) : List String :=
  (List.range n).filterMap fun i => (attempt^[i] m).breaks?

theorem filterMap_range_succ (f : Nat → Option String) (n : Nat) :
    (List.range (n + 1)).filterMap f = (List.range n).filterMap f ++ (f n).toList := by
  rw [List.range_succ, List.filterMap_append]
  cases h : f n <;> simp [h]

theorem begun_succ (m : Machine) (n : Nat) :
    m.begun (n + 1) = m.begun n ++ (attempt^[n] m).begins?.toList :=
  filterMap_range_succ _ n

theorem broken_succ (m : Machine) (n : Nat) :
    m.broken (n + 1) = m.broken n ++ (attempt^[n] m).breaks?.toList :=
  filterMap_range_succ _ n

theorem mnemonic_instruction {m : Machine} {o : Operation} (h : m.operation? = some o) :
    m.instruction.mnemonic = o.mnemonic :=
  Instruction.mnemonic_of_some (instruction_operation? h)

theorem begins?_of_none {m : Machine} (h : m.operation? = none) : m.begins? = none := by
  rw [begins?, fetch_of_none h]

theorem begins?_of_some {m : Machine} {o : Operation} (h : m.operation? = some o) :
    m.begins? = some o.mnemonic := by
  rw [begins?, fetch_of_some h, ← mnemonic_instruction h]

theorem breaks?_of_ok {m m' : Machine} (h : step m = .ok () m') : m.breaks? = none := by
  rw [breaks?, h]

theorem breaks?_of_error {m m' : Machine} {f : Fault} (h : step m = .error f m') :
    m.breaks? = m.begins? := by
  rw [breaks?, h]

end Machine

/-! ## One operation -/

namespace Operation

variable {m : Machine} {o : Operation}

theorem depth_callsAfter (hf : o.fault? m = none) :
    ((o.callsAfter m).depth : Int) =
      m.calls.depth + [o.mnemonic].count "CALL" - [o.mnemonic].count "RET" := by
  rw [← CallStack.length_frames, ← CallStack.length_frames]
  cases o with
  | call a =>
      rw [callsAfter, CallStack.frames_pushed (Machine.depth_lt_of_call hf)]
      simp [mnemonic]
  | ret =>
      rw [← Machine.frames_callsAfter_ret hf]
      simp [mnemonic]
  | skip c => cases c <;> simp [mnemonic, Condition.mnemonic, callsAfter]
  | arithmetic f x y => cases f <;> simp [mnemonic, Arithmetic.name, callsAfter]
  | _ => simp [mnemonic, callsAfter]

theorem length_frames (m : Machine) (o : Operation) :
    (o.frames m).length = [o.mnemonic].count "CLS" + [o.mnemonic].count "DRW" := by
  cases o with
  | skip c => cases c <;> simp [mnemonic, Condition.mnemonic, frames]
  | arithmetic f x y => cases f <;> simp [mnemonic, Arithmetic.name, frames]
  | _ => simp [mnemonic, frames]

theorem polls_keysAfter (m : Machine) (o : Operation) :
    (o.keysAfter m).polls = m.keys.polls +
      ([o.mnemonic].count "SKP" + [o.mnemonic].count "SKNP"
        + [o.mnemonic].count "LD Vx,K") := by
  cases o with
  | skip c =>
      cases c <;>
        simp [mnemonic, Condition.mnemonic, keysAfter, Condition.keysAfter, KeyInput.poll]
  | arithmetic f x y => cases f <;> simp [mnemonic, Arithmetic.name, keysAfter]
  | _ => simp [mnemonic, keysAfter, KeyInput.poll]

theorem randomAfter_eq (m : Machine) (o : Operation) :
    o.randomAfter m = m.random.after ([o.mnemonic].count "RND") := by
  cases o with
  | skip c =>
      cases c <;> simp [mnemonic, Condition.mnemonic, randomAfter, Random.Source.after]
  | arithmetic f x y =>
      cases f <;> simp [mnemonic, Arithmetic.name, randomAfter, Random.Source.after]
  | _ => simp [mnemonic, randomAfter, Random.Source.after]

/-- What breaks off works on the call stack or on memory. -/
theorem mnemonic_of_fault {f : Fault} (hf : o.fault? m = some f) :
    o.mnemonic ∈ ["CALL", "RET", "DRW", "LD B,Vx", "LD [I],Vx", "LD Vx,[I]"] := by
  cases o with
  | call a | ret | draw x y n | storeDigits x | storeRegisters x | loadRegisters x =>
      simp [mnemonic]
  | _ => cases hf

end Operation

namespace Machine

/-! ## One call -/

/-- What the books of a machine show after some instructions were begun, of which some
broke off. -/
structure Accords (m : Machine) (begun broken : List String) (s : Machine) : Prop where
  statistics : s.statistics = m.statistics.bumpAll begun
  cycles : s.cycles + broken.length = m.cycles + begun.length
  depth : (s.calls.depth : Int) =
    m.calls.depth + begun.count "CALL" - begun.count "RET"
      - broken.count "CALL" + broken.count "RET"
  frames : (s.output.frameCount : Int) =
    m.output.frameCount + begun.count "CLS" + begun.count "DRW" - broken.count "DRW"
  polls : s.keys.polls =
    m.keys.polls + (begun.count "SKP" + begun.count "SKNP" + begun.count "LD Vx,K")
  random : s.random = m.random.after (begun.count "RND")

theorem Accords.refl (m : Machine) : m.Accords [] [] m := by
  constructor <;> simp [Tally.bumpAll, Random.Source.after]

theorem Accords.trans {m s t : Machine} {b k b' k' : List String} (h : m.Accords b k s)
    (h' : s.Accords b' k' t) : m.Accords (b ++ b') (k ++ k') t where
  statistics := by
    rw [h'.statistics, h.statistics, Tally.bumpAll, Tally.bumpAll, Tally.bumpAll,
      List.foldl_append]
  cycles := by
    have := h.cycles
    have := h'.cycles
    simp only [List.length_append]
    omega
  depth := by
    rw [h'.depth, h.depth]
    simp only [List.count_append]
    omega
  frames := by
    rw [h'.frames, h.frames]
    simp only [List.count_append]
    omega
  polls := by
    rw [h'.polls, h.polls]
    simp only [List.count_append]
    omega
  random := by rw [h'.random, h.random, ← Random.Source.after_add, List.count_append]

theorem accords_completed {m : Machine} {o : Operation} (ho : m.operation? = some o)
    (hf : o.fault? m = none) : m.Accords [o.mnemonic] [] (m.completed o) where
  statistics := by
    rw [completed_eq, ← mnemonic_instruction ho]
    rfl
  cycles := by
    rw [completed_eq]
    rfl
  depth := by
    rw [calls_completed, Operation.depth_callsAfter hf]
    simp
  frames := by
    rw [(m.receives_completed o).count, Operation.length_frames]
    simp [Int.add_assoc]
  polls := by
    rw [completed_eq]
    exact o.polls_keysAfter m
  random := by
    rw [completed_eq]
    exact o.randomAfter_eq m

theorem accords_residue {m : Machine} {o : Operation} {f : Fault}
    (ho : m.operation? = some o) (hf : o.fault? m = some f) :
    m.Accords [o.mnemonic] [o.mnemonic] (o.residue m.counted) := by
  have hnone : ∀ name ∈ ["CLS", "SKP", "SKNP", "LD Vx,K", "RND"],
      [o.mnemonic].count name = 0 := by
    -- none of the names that may break off asks a device for anything
    have hapart : ∀ name ∈ ["CLS", "SKP", "SKNP", "LD Vx,K", "RND"],
        name ∉ ["CALL", "RET", "DRW", "LD B,Vx", "LD [I],Vx", "LD Vx,[I]"] := by decide
    intro name hasks
    refine List.count_eq_zero.2 fun hmem => hapart name hasks ?_
    rw [List.mem_singleton.1 hmem]
    exact Operation.mnemonic_of_fault hf
  simp only [List.forall_mem_cons] at hnone
  obtain ⟨hcls, hskp, hsknp, hkey, hrnd, -⟩ := hnone
  rw [residue_eq]
  exact {
    statistics := by
      rw [← mnemonic_instruction ho]
      rfl
    cycles := rfl
    depth := by
      show (m.calls.depth : Int) = _
      omega
    frames := by
      show (m.output.frameCount : Int) = _
      omega
    polls := by
      rw [hskp, hsknp, hkey]
      rfl
    random := by
      rw [hrnd]
      rfl }

theorem accords_attempt (m : Machine) :
    m.Accords m.begins?.toList m.breaks?.toList m.attempt := by
  cases ho : m.operation? with
  | none =>
      rw [breaks?_of_error (step_of_none ho), begins?_of_none ho,
        attempt_of_error (step_of_none ho)]
      exact .refl m
  | some o =>
      rw [begins?_of_some ho]
      cases hf : o.fault? m with
      | none =>
          have hs := step_eq_ok_iff.2 ⟨o, ho, hf, rfl⟩
          rw [breaks?_of_ok hs, attempt_of_ok hs]
          exact accords_completed ho hf
      | some f =>
          have hs := step_eq_error_iff.2 (Or.inr ⟨o, ho, hf, rfl⟩)
          rw [breaks?_of_error hs, begins?_of_some ho, attempt_of_error hs]
          exact accords_residue ho hf

/-! ## A run -/

theorem accords_iterate_attempt (m : Machine) (n : Nat) :
    m.Accords (m.begun n) (m.broken n) (attempt^[n] m) := by
  induction n with
  | zero => exact .refl m
  | succ n ih =>
      rw [begun_succ, broken_succ, Function.iterate_succ_apply']
      exact ih.trans (accords_attempt _)

/-- A draw of a random byte takes the draw whose turn it is, and the register named
gets the bits of the mask. -/
theorem named_of_random {m : Machine} {x mask : Int}
    (ho : m.operation? = some (.random x mask)) :
    m.attempt.registers.named x = m.random.nth 0 &&& lowByte mask := by
  have hs := step_eq_ok_iff.2 ⟨_, ho, rfl, rfl⟩
  rw [attempt_of_ok hs, registers_completed, Operation.registersAfter, Registers.named,
    Registers.get_set, if_pos rfl]
  rfl

/-- The books after `n` calls of `step`, read off the machine. The statistics are the
instructions begun, by name. They exceed the cycles by those that broke off, and with
these taken off they are what the call stack and the devices have seen. The `i`-th of
the instructions that draw a byte uses the `i`-th byte of the source. The names stand
in the order in which they were first begun. -/
structure Balanced (m : Machine) (n : Nat) : Prop where
  counts : ∀ name,
    (attempt^[n] m).statistics.count name = (m.begun n).count name
  total : (attempt^[n] m).statistics.total =
    (attempt^[n] m).cycles + (m.broken n).length
  depth : ((attempt^[n] m).calls.depth : Int) =
    (attempt^[n] m).statistics.count "CALL" - (attempt^[n] m).statistics.count "RET"
      - (m.broken n).count "CALL" + (m.broken n).count "RET"
  frames : ((attempt^[n] m).output.frameCount : Int) - m.output.frameCount =
    (attempt^[n] m).statistics.count "CLS" + (attempt^[n] m).statistics.count "DRW"
      - (m.broken n).count "DRW"
  polls : ((attempt^[n] m).keys.polls : Int) - m.keys.polls =
    (attempt^[n] m).statistics.count "SKP" + (attempt^[n] m).statistics.count "SKNP"
      + (attempt^[n] m).statistics.count "LD Vx,K"
  draws : ((attempt^[n] m).random.drawn : Int) - m.random.drawn =
    (attempt^[n] m).statistics.count "RND"
  bytes : ∀ x mask, (attempt^[n] m).operation? = some (.random x mask) →
    (attempt^[n + 1] m).registers.named x =
      m.random.nth ((m.begun n).count "RND") &&& lowByte mask
  names : (attempt^[n] m).statistics.names = (m.begun n).eraseDups
  distinct : (attempt^[n] m).statistics.names.Nodup

/-- However often a new machine is stepped, and whatever fails on the way, its books
are in balance. -/
theorem ledger_balances {image : List UInt8} (h : image.length ≤ 3584) (keys : KeyInput)
    (random : Random.Source) (output : Output) (rate : Number) :
    ∃ m, Machine.new image keys random output rate = .ok m ∧
      (m.keys = keys ∧ m.random = random ∧ m.output = output) ∧ ∀ n, m.Balanced n := by
  refine ⟨_, new_eq h keys random output rate, ⟨rfl, rfl, rfl⟩, ?_⟩
  intro n
  obtain ⟨m, hm⟩ : ∃ m : Machine, m =
    { memory := initialMemory image, keys, random, output, rate } := ⟨_, rfl⟩
  rw [← hm]
  have hn := m.accords_iterate_attempt n
  have hstats : (attempt^[n] m).statistics = Tally.bumpAll [] (m.begun n) := by
    rw [hn.statistics, hm]
  have hcounts : ∀ name, (attempt^[n] m).statistics.count name =
      (m.begun n).count name := by
    intro name
    rw [hstats, Tally.count_bumpAll]
    exact Int.zero_add _
  exact {
    counts := hcounts
    total := by
      have hcycles := hn.cycles
      have hzero : m.cycles = 0 := by rw [hm]
      have htotal : (attempt^[n] m).statistics.total = (m.begun n).length := by
        rw [hstats, Tally.total_bumpAll]
        exact Int.zero_add _
      omega
    depth := by
      have hzero : m.calls.depth = 0 := by rw [hm]; rfl
      rw [hcounts, hcounts, hn.depth, hzero]
      omega
    frames := by
      rw [hcounts, hcounts, hn.frames]
      omega
    polls := by
      rw [hcounts, hcounts, hcounts, hn.polls]
      omega
    draws := by
      rw [hcounts, hn.random, Random.Source.drawn_after]
      omega
    bytes := by
      intro x mask ho
      rw [Function.iterate_succ_apply', named_of_random ho, hn.random]
      rfl
    names := by rw [hstats, Tally.names_bumpAll]
    distinct := by
      rw [hstats]
      exact Tally.nodup_names_bumpAll (t := []) List.nodup_nil _ }

/-- A program that returns from nowhere. The return is counted and broken off, so the
depth stays what it was and no cycle is counted. -/
theorem ledger_balances_return :
    ([0x00, 0xEE] : List UInt8).length ≤ 3584 ∧
      ∃ m, Machine.new [0x00, 0xEE] (.scripted [none]) (.rotating [7]) .recording
          (.whole 0) = .ok m ∧ (∀ n, m.Balanced n) ∧
        m.broken 1 = ["RET"] ∧ (attempt^[1] m).statistics.total = 1 ∧
        (attempt^[1] m).cycles = 0 := by
  have hl : ([0x00, 0xEE] : List UInt8).length ≤ 3584 := by decide
  obtain ⟨m, hm, -, hall⟩ :=
    ledger_balances hl (.scripted [none]) (.rotating [7]) .recording (.whole 0)
  have hnew := Except.ok.inj ((new_eq hl _ _ _ _).symm.trans hm)
  have hmem : m.memory = initialMemory [0x00, 0xEE] := by rw [← hnew]
  have hpc : m.pc = 0x200 := by rw [← hnew]; rfl
  have hcalls : m.calls.depth = 0 := by rw [← hnew]; rfl
  have hcycles : m.cycles = 0 := by rw [← hnew]
  have hw : m.word = 0x00EE := word_of_image _ hmem hl 0 hpc (by decide)
  have ho : m.operation? = some .ret :=
    operation?_of_matches (by omega) (by rw [hw]; decide) trivial
  have hf : Operation.ret.fault? m = some .callStackUnderflow := if_pos hcalls
  have hs := step_eq_error_iff.2 (Or.inr ⟨_, ho, hf, rfl⟩)
  have hbroken : m.broken 1 = ["RET"] := by
    rw [broken_succ, Function.iterate_zero_apply, breaks?_of_error hs, begins?_of_some ho]
    rfl
  have hsame : (attempt^[1] m).cycles = 0 := by
    rw [Function.iterate_one, attempt_of_error hs, eq_of_step_error hs]
    exact hcycles
  refine ⟨hl, m, hm, hall, hbroken, ?_, hsame⟩
  rw [(hall 1).total, hbroken, hsame]
  rfl

end Machine

end ChipEight
