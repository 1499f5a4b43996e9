import ChipEight.Proofs.Machine.Footprint
import Mathlib.Algebra.Ring.Int.Defs
import Mathlib.Logic.Function.Iterate

/-!
# The timers

Both timers tick at the end of every step that succeeds, after its operation, and
nowhere else. So a timer that is set counts down once in the step that sets it, a
timer that is read has counted down once for every step before, and a step that waits
for a key counts like any other. What an instruction does between two others is of no
account, as long as it does not set the timer again.

The sound timer beeps whenever it ticks. That makes it a balance: what it was given
is either still on it or has been heard. An instruction that sets it gives it the new
value and takes the old one away, and over a run the sum of these is all there is to
add.
-/

namespace ChipEight

namespace Machine

/-- The two timers. -/
inductive Timer where
  | delay
  | sound

/-- What a timer stands at. -/
def Timer.value : Timer → Machine → Int
  | delay, m => m.delay
  | sound, m => m.sound

/-- The pattern of the words that set a timer. -/
def Timer.setter : Timer → Pattern
  | delay => .byte 0xF 0x15
  | sound => .byte 0xF 0x18

/-- A word of a pattern is fetched by the next step. -/
def Fetches (m : Machine) (p : Pattern) : Prop :=
  Memory.Fits Image.memorySize m.pc 2 ∧ p.Matches m.word

instance (m : Machine) (p : Pattern) : Decidable (m.Fetches p) :=
  inferInstanceAs (Decidable (_ ∧ _))

/-- The value of the register that the second digit of the word names. -/
def operand (m : Machine) : Int := byteValue (m.registers.named (m.word / 256 % 16 : Nat))

/-- The first `n` steps succeed. -/
def SucceedsFor (m : Machine) (n : Nat) : Prop :=
  ∀ i < n, ∃ m', step (attempt^[i] m) = .ok () m'

theorem fetches_iff {m : Machine} {o : Operation} (ho : m.operation? = some o)
    {p : Pattern} : m.Fetches p ↔ p.Matches m.word := by
  have hpc := fits_pc_iff.2 (operation?_eq_some_iff.1 ho).1
  exact and_iff_right hpc

theorem operation?_of_fetches {m : Machine} {o : Operation} (h : m.Fetches o.pattern)
    (hc : o.CarriedBy m.word) : m.operation? = some o :=
  operation?_of_matches (fits_pc_iff.1 h.1) h.2 hc

/-! ## One step -/

theorem Timer.value_of_step (t : Timer) {m m' : Machine} (h : step m = .ok () m') :
    t.value m' = ticked (if m.Fetches t.setter then m.operand else t.value m) := by
  obtain ⟨o, ho, -, rfl⟩ := step_eq_ok_iff.1 h
  simp only [fetches_iff ho, operand]
  cases t with
  | delay => rw [value, delay_completed, delayAfter_eq ho]; rfl
  | sound => rw [value, sound_completed, soundAfter_eq ho]; rfl

/-! ## A timer in a run -/

theorem operand_range (m : Machine) : 0 ≤ m.operand ∧ m.operand ≤ 255 :=
  byteValue_range _

/-- A timer that is not set counts down to zero and stays there. -/
theorem Timer.countdown (t : Timer) {m : Machine} {n : Nat} (h₀ : 0 ≤ t.value m)
    (hs : m.SucceedsFor n) (hn : ∀ i < n, ¬ (attempt^[i] m).Fetches t.setter) :
    t.value (attempt^[n] m) = max 0 (t.value m - n) := by
  induction n with
  | zero =>
      rw [Function.iterate_zero_apply]
      omega
  | succ n ih =>
      obtain ⟨m', hstep⟩ := hs n (Nat.lt_succ_self n)
      have hbefore := ih (fun i hi => hs i (Nat.lt_succ_of_lt hi))
        fun i hi => hn i (Nat.lt_succ_of_lt hi)
      rw [Function.iterate_succ_apply', attempt_of_ok hstep, t.value_of_step hstep,
        if_neg (hn n (Nat.lt_succ_self n)), hbefore, ticked]
      split <;> omega

/-- A timer after it was set, and then left alone for `d` steps. -/
theorem Timer.countdown_of_set (t : Timer) {m : Machine} {i d : Nat}
    (hs : m.SucceedsFor (d + (i + 1))) (hset : (attempt^[i] m).Fetches t.setter)
    (hn : ∀ k, i < k → k < d + (i + 1) → ¬ (attempt^[k] m).Fetches t.setter) :
    t.value (attempt^[d + (i + 1)] m) = max 0 ((attempt^[i] m).operand - (d + 1)) := by
  obtain ⟨m', hstep⟩ := hs i (by omega)
  have hrange := (attempt^[i] m).operand_range
  have hfirst : t.value (attempt^[i + 1] m) = ticked (attempt^[i] m).operand := by
    rw [Function.iterate_succ_apply', attempt_of_ok hstep, t.value_of_step hstep,
      if_pos hset]
  have hrest : t.value (attempt^[d] (attempt^[i + 1] m)) =
      max 0 (t.value (attempt^[i + 1] m) - d) := by
    refine t.countdown (by rw [hfirst]; exact (ticked_range hrange).1) ?_ ?_
    · intro k hk
      rw [← Function.iterate_add_apply]
      exact hs _ (by omega)
    · intro k hk
      rw [← Function.iterate_add_apply]
      exact hn _ (by omega) (by omega)
  rw [Function.iterate_add_apply, hrest, hfirst, ticked]
  split <;> omega

/-! ## What is heard -/

theorem beepCount_tick (m : Machine) :
    (m.tick.output.beepCount : Int) = m.output.beepCount + (m.sound - m.tick.sound) := by
  rw [tick_eq]
  by_cases h : 0 < m.sound
  · simp only [ticked, if_pos h, Output.beep]
    omega
  · simp only [ticked, if_neg h]
    omega

theorem beepCount_completed (m : Machine) (o : Operation) :
    ((m.completed o).output.beepCount : Int) =
      m.output.beepCount + (o.soundAfter m - ticked (o.soundAfter m)) := by
  -- showing a frame is no beep, so all of them come from the tick
  obtain ⟨n, hn, hcount, hsound⟩ : ∃ n : Machine, m.completed o = n.tick ∧
      n.output.beepCount = m.output.beepCount ∧ n.sound = o.soundAfter m := by
    refine ⟨_, rfl, ?_, ?_⟩ <;> cases o <;> rfl
  rw [← sound_completed, hn, beepCount_tick, hcount, hsound]

/-- What the next step gives the sound timer: the new value, less the one it takes away. -/
def soundGain (m : Machine) : Int :=
  if m.Fetches (.byte 0xF 0x18) then m.operand - m.sound else 0

/-- An instruction that sets the sound timer does not fail. -/
theorem soundGain_of_error {m m' : Machine} {f : Fault} (h : step m = .error f m') :
    m.soundGain = 0 := by
  refine if_neg fun hfetch => ?_
  have ho := operation?_of_fetches (o := .setSound (m.word / 256 % 16 : Nat)) hfetch rfl
  have hs := step_eq_ok_iff.2 ⟨_, ho, rfl, rfl⟩
  exact nomatch h.symm.trans hs

theorem beepCount_of_step {m m' : Machine} (h : step m = .ok () m') :
    (m'.output.beepCount : Int) =
      m.output.beepCount + (m.sound - m'.sound + m.soundGain) := by
  obtain ⟨o, ho, -, rfl⟩ := step_eq_ok_iff.1 h
  rw [beepCount_completed, sound_completed, soundAfter_eq ho, soundGain]
  simp only [fetches_iff ho, operand]
  split <;> omega

theorem beepCount_attempt (m : Machine) :
    (m.attempt.output.beepCount : Int) =
      m.output.beepCount + (m.sound - m.attempt.sound + m.soundGain) := by
  cases h : step m with
  | ok u m' =>
      rw [attempt_of_ok h]
      exact beepCount_of_step h
  | error f m' =>
      rw [attempt_of_error h, soundGain_of_error h, eq_of_step_error h]
      show (m.output.beepCount : Int) = m.output.beepCount + (m.sound - m.sound + 0)
      omega

/-- What the first `n` calls give the sound timer. -/
def soundGains (m : Machine) (n : Nat) : Int :=
  ((List.range n).map fun i => (attempt^[i] m).soundGain).sum

theorem soundGains_succ (m : Machine) (n : Nat) :
    m.soundGains (n + 1) = m.soundGains n + (attempt^[n] m).soundGain := by
  simp [soundGains, List.range_succ]

theorem beepCount_iterate_attempt (m : Machine) (n : Nat) :
    ((attempt^[n] m).output.beepCount : Int) =
      m.output.beepCount + (m.sound - (attempt^[n] m).sound + m.soundGains n) := by
  induction n with
  | zero =>
      simp [soundGains]
  | succ n ih =>
      rw [Function.iterate_succ_apply', beepCount_attempt, ih, soundGains_succ]
      omega

theorem soundGains_of_not_fetches {m : Machine} {n : Nat}
    (hn : ∀ i < n, ¬ (attempt^[i] m).Fetches (.byte 0xF 0x18)) : m.soundGains n = 0 := by
  induction n with
  | zero => rfl
  | succ n ih =>
      rw [soundGains_succ, ih fun i hi => hn i (Nat.lt_succ_of_lt hi), soundGain,
        if_neg (hn n (Nat.lt_succ_self n))]
      rfl

/-- What was heard in the first `n` calls of `step`. The beeps are what the sound timer
had, less what it has, and what it was given on the way. A step that succeeds beeps once
at most, and one that fails does not. Where every step succeeds and none sets the timer,
there is a beep for every step until the timer is down. -/
structure Heard (m : Machine) (n : Nat) : Prop where
  balance : ((attempt^[n] m).output.beepCount : Int) - m.output.beepCount =
    m.sound - (attempt^[n] m).sound + m.soundGains n
  once : ∀ i < n, ∀ m', step (attempt^[i] m) = .ok () m' →
    m'.output.beepCount = (attempt^[i] m).output.beepCount ∨
      m'.output.beepCount = (attempt^[i] m).output.beepCount + 1
  silent : ∀ i < n, ∀ f m', step (attempt^[i] m) = .error f m' →
    m'.output.beepCount = (attempt^[i] m).output.beepCount
  countdown : 0 ≤ m.sound → m.SucceedsFor n →
    (∀ i < n, ¬ (attempt^[i] m).Fetches (.byte 0xF 0x18)) →
      ((attempt^[n] m).output.beepCount : Int) - m.output.beepCount = min m.sound n ∧
        (attempt^[n] m).sound = max (m.sound - n) 0

/-- No beep is lost and none is made up. -/
theorem beeps_conserved (m : Machine) (n : Nat) : m.Heard n where
  balance := by
    rw [beepCount_iterate_attempt]
    omega
  once := by
    intro i _ m' hs
    obtain ⟨o, -, -, rfl⟩ := step_eq_ok_iff.1 hs
    have hcount := beepCount_completed (attempt^[i] m) o
    rw [ticked] at hcount
    split at hcount <;> omega
  silent := by
    intro i _ f m' hs
    rw [eq_of_step_error hs]
  countdown := by
    intro h₀ hs hn
    have hend : (attempt^[n] m).sound = max 0 (m.sound - n) :=
      Timer.sound.countdown h₀ hs hn
    rw [beepCount_iterate_attempt, soundGains_of_not_fetches hn, hend]
    omega

/-! ## Reading the delay timer -/

theorem byteValue_lowByte {v : Int} (h : 0 ≤ v ∧ v ≤ 255) : byteValue (lowByte v) = v := by
  rw [byteValue, lowByte_toNat]
  omega

/-- A step that reads the delay timer succeeds, with what it reads in the register that
its word names. -/
theorem exists_step_of_readDelay {m : Machine} (h : m.Fetches (.byte 0xF 0x07)) :
    ∃ m', step m = .ok () m' ∧
      m'.registers.named (m.word / 256 % 16 : Nat) = lowByte m.delay := by
  have ho := operation?_of_fetches (o := .readDelay (m.word / 256 % 16 : Nat)) h rfl
  refine ⟨_, step_eq_ok_iff.2 ⟨_, ho, rfl, rfl⟩, ?_⟩
  rw [registers_completed, Operation.registersAfter, Registers.named, Registers.get_set,
    if_pos rfl]

/-- What a read of the delay timer finds depends on when it was set last and to what,
and on nothing that was done between. If it was not set in the run, the run started
with what it had. -/
theorem delay_latency {m : Machine} {j : Nat} (hs : m.SucceedsFor j)
    (hr : (attempt^[j] m).Fetches (.byte 0xF 0x07)) :
    ∃ m', step (attempt^[j] m) = .ok () m' ∧
      (∀ i < j, (attempt^[i] m).Fetches (.byte 0xF 0x15) →
        (∀ k, i < k → k < j → ¬ (attempt^[k] m).Fetches (.byte 0xF 0x15)) →
          byteValue (m'.registers.named ((attempt^[j] m).word / 256 % 16 : Nat)) =
            max 0 ((attempt^[i] m).operand - (j - i))) ∧
      (0 ≤ m.delay ∧ m.delay ≤ 255 →
        (∀ k < j, ¬ (attempt^[k] m).Fetches (.byte 0xF 0x15)) →
          byteValue (m'.registers.named ((attempt^[j] m).word / 256 % 16 : Nat)) =
            max 0 (m.delay - j)) := by
  obtain ⟨m', hstep, hread⟩ := exists_step_of_readDelay hr
  refine ⟨m', hstep, ?_, ?_⟩
  · intro i hi hset hn
    obtain ⟨d, rfl⟩ : ∃ d, j = d + (i + 1) := ⟨j - (i + 1), by omega⟩
    have hdelay : (attempt^[d + (i + 1)] m).delay =
        max 0 ((attempt^[i] m).operand - (d + 1)) :=
      Timer.delay.countdown_of_set hs hset hn
    have hrange := (attempt^[i] m).operand_range
    rw [hread, byteValue_lowByte (by omega), hdelay]
    omega
  · intro hrange hn
    have hdelay : (attempt^[j] m).delay = max 0 (m.delay - j) :=
      Timer.delay.countdown hrange.1 hs hn
    rw [hread, byteValue_lowByte (by omega), hdelay]

/-- Set to 5 and read by the next instruction, the timer is at 4. -/
theorem delay_latency_next :
    ∃ m m' : Machine, m = { holding [0xF0, 0x15, 0xF1, 0x07] 0 with
        registers := Registers.zero.set 0 5 } ∧
      m.SucceedsFor 1 ∧ (attempt^[1] m).Fetches (.byte 0xF 0x07) ∧
      step (attempt^[1] m) = .ok () m' ∧ m'.registers.get 1 = 4 := by
  obtain ⟨m, hm⟩ : ∃ m : Machine, m = { holding [0xF0, 0x15, 0xF1, 0x07] 0 with
      registers := Registers.zero.set 0 5 } := ⟨_, rfl⟩
  have hmem : m.memory = initialMemory [0xF0, 0x15, 0xF1, 0x07] := by rw [hm]; rfl
  have hpc : m.pc = 0x200 := by rw [hm]; rfl
  have hw : m.word = 0xF015 := by
    rw [word_of_image _ hmem (by decide) 0 hpc (by decide)]
    rfl
  have hset : m.Fetches (.byte 0xF 0x15) := ⟨fits_pc_iff.2 (by omega), by rw [hw]; decide⟩
  have ho := operation?_of_fetches (o := .setDelay (m.word / 256 % 16 : Nat)) hset rfl
  have hstep := step_eq_ok_iff.2 ⟨_, ho, rfl, rfl⟩
  have hfirst : attempt^[1] m = m.completed (.setDelay (m.word / 256 % 16 : Nat)) := by
    rw [Function.iterate_one, attempt_of_ok hstep]
  have hpc' : (attempt^[1] m).pc = 0x202 := by
    rw [hfirst, pc_completed]
    show (m.pc + 2) % 65536 = _
    rw [hpc]
    rfl
  have hmem' : (attempt^[1] m).memory = initialMemory [0xF0, 0x15, 0xF1, 0x07] := by
    rw [hfirst, memory_completed, ← hmem]
    rfl
  have hw' : (attempt^[1] m).word = 0xF107 := by
    rw [word_of_image _ hmem' (by decide) 2 hpc' (by decide)]
    rfl
  have hread : (attempt^[1] m).Fetches (.byte 0xF 0x07) :=
    ⟨fits_pc_iff.2 (by omega), by rw [hw']; decide⟩
  have hs : m.SucceedsFor 1 := by
    intro i hi
    obtain rfl : i = 0 := by omega
    exact ⟨_, hstep⟩
  obtain ⟨m', hlast, hlatency, -⟩ := delay_latency hs hread
  refine ⟨m, m', hm, hs, hread, hlast, ?_⟩
  have hvalue := hlatency 0 (by omega) hset (fun k _ _ => by omega)
  have hfive : m.operand = 5 := by
    rw [operand, hw, hm]
    rfl
  rw [Function.iterate_zero_apply, hfive, hw'] at hvalue
  rw [← lowByte_byteValue (m'.registers.get 1)]
  exact congrArg lowByte hvalue

end Machine

end ChipEight
