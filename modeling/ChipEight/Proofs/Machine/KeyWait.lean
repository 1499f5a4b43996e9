import ChipEight.Proofs.Machine.Ledger
import ChipEight.Proofs.Machine.Timers

/-!
# Waiting for a key

A machine waits by doing the same instruction over again. Nothing marks the wait
while it lasts: the program counter stays where it is, the input device is asked
once more, and the rest of the cycle takes place as always. Afterwards the machine
compares the new program counter with the old one and looks at the instruction, and
that is the only trace there is of having waited.

So a wait should be time and nothing else. A step that finds no key leaves a machine
that is `Idle` beside the first one: the same program, the same registers, the same
place to go on from. That is the step lemma, and as the word fetched is then the same
too, it repeats itself for as long as no key is held. What does pass is the business
of the timers, the device and the counts, and they have run lemmas of their own.
-/

namespace ChipEight

namespace KeyInput

/-- The device after so many polls. -/
def after (i : KeyInput) (n : Nat) : KeyInput := (fun i => i.poll.2)^[n] i

/-- The answer to a poll, the first being the zeroth. -/
def nth (i : KeyInput) (n : Nat) : Option Int := (i.after n).poll.1

/-- The device answers so many times that no key is held, and then with a key. -/
structure Answers (i : KeyInput) (k : Nat) (key : Int) : Prop where
  without : ∀ n < k, i.nth n = none
  held : i.nth k = some key

theorem after_succ (i : KeyInput) (n : Nat) : i.after (n + 1) = (i.after n).poll.2 :=
  Function.iterate_succ_apply' _ _ _

end KeyInput

namespace Machine

/-- The next step waits for a key and finds none. -/
def Waits (m : Machine) : Prop :=
  m.Fetches (.byte 0xF 0x0A) ∧ m.keys.poll.1 = none

/-! ## One step -/

theorem step_of_awaitKey {m : Machine} (h : m.Fetches (.byte 0xF 0x0A)) :
    step m = .ok () (m.completed (.awaitKey (m.word / 256 % 16 : Nat))) :=
  have ho := operation?_of_fetches (o := .awaitKey (m.word / 256 % 16 : Nat)) h rfl
  step_eq_ok_iff.2 ⟨_, ho, rfl, rfl⟩

theorem awaitsKey_instruction {m : Machine} :
    awaitsKey m.instruction = true ↔ (Pattern.byte 0xF 0x0A).Matches m.word := by
  rw [awaitsKey, instruction, Instruction.ofWord_eq m.word_lt, Bool.and_eq_true,
    beq_iff_eq, beq_iff_eq]
  show ((m.word / 4096 : Nat) : Int) = 0xF ∧ ((m.word % 256 : Nat) : Int) = 0x0A ↔
    m.word / 4096 = 0xF ∧ m.word % 256 = 0x0A
  omega

/-- The flag is set by the steps that found no key. A jump to itself stays where it is
as well, but it is no instruction that waits. -/
theorem waitingForKey_iff {m m' : Machine} (h : step m = .ok () m') :
    m'.waitingForKey = true ↔ m.Waits := by
  obtain ⟨o, ho, -, rfl⟩ := step_eq_ok_iff.1 h
  obtain ⟨hpc, -⟩ := operation?_eq_some_iff.1 ho
  rw [completed_eq, Waits, fetches_iff ho, Bool.and_eq_true, beq_iff_eq,
    awaitsKey_instruction, and_comm]
  refine and_congr_right fun hw => ?_
  obtain rfl := eq_of_matches ho (.awaitKey (m.word / 256 % 16 : Nat)) hw rfl
  rw [Operation.target]
  cases m.keys.poll.1 with
  | none =>
      simp only [Option.isSome_none, Bool.false_eq_true, if_false, iff_true]
      omega
  | some key =>
      simp only [Option.isSome_some, if_true, reduceCtorEq, iff_false]
      omega

/-- What a machine keeps while it waits. The timers, the counts and what the devices
were asked for are left out. -/
structure Idle (m m' : Machine) : Prop where
  memory : m'.memory = m.memory
  registers : m'.registers = m.registers
  calls : m'.calls = m.calls
  display : m'.display = m.display
  pc : m'.pc = m.pc
  index : m'.index = m.index
  random : m'.random = m.random
  rate : m'.rate = m.rate

theorem Idle.refl (m : Machine) : m.Idle m := by constructor <;> rfl

theorem Idle.trans {m n s : Machine} (h : m.Idle n) (h' : n.Idle s) : m.Idle s where
  memory := h'.memory.trans h.memory
  registers := h'.registers.trans h.registers
  calls := h'.calls.trans h.calls
  display := h'.display.trans h.display
  pc := h'.pc.trans h.pc
  index := h'.index.trans h.index
  random := h'.random.trans h.random
  rate := h'.rate.trans h.rate

theorem Idle.word {m m' : Machine} (h : m.Idle m') : m'.word = m.word := by
  rw [Machine.word, Machine.word, h.memory, h.pc]

theorem Idle.fetches {m m' : Machine} (h : m.Idle m') {p : Pattern} :
    m'.Fetches p ↔ m.Fetches p := by
  rw [Fetches, Fetches, h.word, h.pc]

theorem keys_attempt_of_awaitKey {m : Machine} (h : m.Fetches (.byte 0xF 0x0A)) :
    m.attempt.keys = m.keys.poll.2 := by
  rw [attempt_of_ok (step_of_awaitKey h), completed_eq]
  rfl

theorem pc_attempt_of_awaitKey {m : Machine} (h : m.Fetches (.byte 0xF 0x0A)) :
    m.attempt.pc = m.pc + if m.keys.poll.1.isSome then 2 else 0 := by
  have hpc := fits_pc_iff.1 h.1
  rw [attempt_of_ok (step_of_awaitKey h), pc_completed, Operation.target]
  split <;> omega

/-- A step that finds no key has no effect but that of time. -/
theorem Waits.idle {m : Machine} (h : m.Waits) : m.Idle m.attempt := by
  obtain ⟨hw, hnone⟩ := h
  have hpc : m.attempt.pc = m.pc := by
    rw [pc_attempt_of_awaitKey hw, hnone]
    exact Int.add_zero _
  rw [attempt_of_ok (step_of_awaitKey hw), completed_eq] at hpc ⊢
  constructor
  case registers => simp only [Operation.registersAfter, hnone]
  case pc => exact hpc
  all_goals rfl

/-! ## The whole wait -/

/-- As long as no key is held, the machine is idle and only its device moves on. -/
theorem idle_iterate_attempt {m : Machine} (hw : m.Fetches (.byte 0xF 0x0A)) {n : Nat}
    (hn : ∀ i < n, m.keys.nth i = none) :
    m.Idle (attempt^[n] m) ∧ (attempt^[n] m).keys = m.keys.after n := by
  induction n with
  | zero => exact ⟨.refl m, rfl⟩
  | succ n ih =>
      obtain ⟨hidle, hkeys⟩ := ih fun i hi => hn i (Nat.lt_succ_of_lt hi)
      -- the word is the same again, and it is the next answer's turn
      have hfetch := hidle.fetches.2 hw
      have hwaits : (attempt^[n] m).Waits := by
        refine ⟨hfetch, ?_⟩
        rw [hkeys]
        exact hn n (Nat.lt_succ_self n)
      rw [Function.iterate_succ_apply']
      refine ⟨hidle.trans hwaits.idle, ?_⟩
      rw [keys_attempt_of_awaitKey hfetch, hkeys, KeyInput.after_succ]

/-- A machine that found its key, beside the one that began to wait for it `k` steps
before. The key is in the register that the word names, and the machine has moved on.
Apart from that there is what passed in `k + 1` steps. -/
structure Woken (m : Machine) (k : Nat) (key : Int) (m' : Machine) : Prop where
  named : IsByte key → byteValue (m'.registers.named (m.word / 256 % 16 : Nat)) = key
  others : ∀ i : Fin 16, (i : Nat) ≠ m.word / 256 % 16 →
    m'.registers.get i = m.registers.get i
  pc : m'.pc = m.pc + 2
  index : m'.index = m.index
  memory : m'.memory = m.memory
  calls : m'.calls = m.calls
  display : m'.display = m.display
  random : m'.random = m.random
  delay : m'.delay = max 0 (m.delay - (k + 1 : Nat))
  sound : m'.sound = max 0 (m.sound - (k + 1 : Nat))
  beeps : (m'.output.beepCount : Int) - m.output.beepCount = min m.sound (k + 1 : Nat)
  frames : m'.output.frameCount = m.output.frameCount
  cycles : m'.cycles = m.cycles + (k + 1)
  statistics : ∀ name, m'.statistics.count name =
    m.statistics.count name + if name = "LD Vx,K" then (k + 1 : Nat) else 0
  keys : m'.keys = m.keys.after (k + 1)

theorem fetches_of_wait {m : Machine} (hw : m.Fetches (.byte 0xF 0x0A)) {k : Nat}
    (hnone : ∀ i < k, m.keys.nth i = none) :
    ∀ i < k + 1, (attempt^[i] m).Fetches (.byte 0xF 0x0A) := by
  intro i hi
  have hidle : m.Idle (attempt^[i] m) :=
    (idle_iterate_attempt hw fun j hj => hnone j (by omega)).1
  exact hidle.fetches.2 hw

/-! ## What passes

Here `n` calls of `step` all come upon the instruction that waits, the last of them
included, which may have found its key. -/

section

variable {m : Machine} {n : Nat}
  (hf : ∀ i < n, (attempt^[i] m).Fetches (.byte 0xF 0x0A))

include hf

theorem succeedsFor_of_fetches : m.SucceedsFor n :=
  fun i hi => ⟨_, step_of_awaitKey (hf i hi)⟩

theorem not_fetches_of_fetches (low : Nat) (hlow : low ≠ 0x0A) :
    ∀ i < n, ¬ (attempt^[i] m).Fetches (.byte 0xF low) := by
  intro i hi h
  exact hlow (h.2.2.symm.trans (hf i hi).2.2)

theorem begun_of_fetches : m.begun n = List.replicate n "LD Vx,K" := by
  induction n with
  | zero => rfl
  | succ n ih =>
      have ho := operation?_of_fetches (o := .awaitKey _) (hf n (Nat.lt_succ_self n)) rfl
      rw [begun_succ, ih fun i hi => hf i (Nat.lt_succ_of_lt hi), begins?_of_some ho,
        List.replicate_succ']
      rfl

theorem broken_of_fetches : m.broken n = [] := by
  induction n with
  | zero => rfl
  | succ n ih =>
      have hs := step_of_awaitKey (hf n (Nat.lt_succ_self n))
      rw [broken_succ, ih fun i hi => hf i (Nat.lt_succ_of_lt hi), breaks?_of_ok hs]
      rfl

/-- The books of the machine know of nothing but the instruction that waited. -/
theorem accords_of_fetches : m.Accords (List.replicate n "LD Vx,K") [] (attempt^[n] m) := by
  rw [← begun_of_fetches hf, ← broken_of_fetches hf]
  exact m.accords_iterate_attempt n

theorem beeps_of_fetches (h₀ : 0 ≤ m.sound) :
    ((attempt^[n] m).output.beepCount : Int) - m.output.beepCount = min m.sound n := by
  have hn := not_fetches_of_fetches hf 0x18 (by decide)
  have hend : (attempt^[n] m).sound = max 0 (m.sound - n) :=
    Timer.sound.countdown h₀ (succeedsFor_of_fetches hf) hn
  rw [beepCount_iterate_attempt, soundGains_of_not_fetches hn, hend]
  omega

end

/-! ## The key -/

/-- The machine that found its key is the one that began to wait, with the key put into
its register, with the steps of the wait behind it. -/
theorem woken_of_answers {m : Machine} (hw : m.Fetches (.byte 0xF 0x0A))
    (hdelay : 0 ≤ m.delay) (hsound : 0 ≤ m.sound) {k : Nat} {key : Int}
    (hkeys : m.keys.Answers k key) : m.Woken k key (attempt^[k + 1] m) := by
  -- `k` steps find no key, and the machine they leave is idle; one more finds it
  obtain ⟨hidle, hpolled⟩ := idle_iterate_attempt hw hkeys.without
  have hfetch := fetches_of_wait hw hkeys.without
  have hs := succeedsFor_of_fetches hfetch
  have hbooks := accords_of_fetches hfetch
  have hlast : (attempt^[k] m).Fetches (.byte 0xF 0x0A) := hidle.fetches.2 hw
  have hkey : (attempt^[k] m).keys.poll.1 = some key := by
    rw [hpolled]
    exact hkeys.held
  have hnext : attempt^[k + 1] m = (attempt^[k] m).attempt :=
    Function.iterate_succ_apply' _ _ _
  have hend : attempt^[k + 1] m =
      (attempt^[k] m).completed (.awaitKey (m.word / 256 % 16 : Nat)) := by
    rw [hnext, attempt_of_ok (step_of_awaitKey hlast), hidle.word]
  have hregisters : (attempt^[k + 1] m).registers =
      m.registers.set (Registers.place (m.word / 256 % 16 : Nat)) (lowByte key) := by
    rw [hend, registers_completed, ← hidle.registers]
    simp only [Operation.registersAfter, hkey]
  exact {
    named := by
      intro hbyte
      rw [hregisters, Registers.named, Registers.get_set, if_pos rfl]
      exact byteValue_lowByte ⟨hbyte.1, Int.le_of_lt_add_one hbyte.2⟩
    others := by
      intro i hi
      rw [hregisters, Registers.get_set, if_neg]
      intro he
      exact hi (eq_of_place he)
    pc := by
      rw [hnext, pc_attempt_of_awaitKey hlast, hkey, hidle.pc]
      rfl
    index := by
      rw [hend, completed_eq]
      exact hidle.index
    memory := by
      rw [hend, completed_eq]
      exact hidle.memory
    calls := by
      rw [hend, completed_eq]
      exact hidle.calls
    display := by
      rw [hend, completed_eq]
      exact hidle.display
    random := by
      rw [hend, completed_eq]
      exact hidle.random
    delay :=
      Timer.delay.countdown hdelay hs (not_fetches_of_fetches hfetch 0x15 (by decide))
    sound :=
      Timer.sound.countdown hsound hs (not_fetches_of_fetches hfetch 0x18 (by decide))
    beeps := beeps_of_fetches hfetch hsound
    frames := by simpa [List.count_replicate] using hbooks.frames
    cycles := by simpa using hbooks.cycles
    statistics := by
      intro name
      rw [hbooks.statistics, Tally.count_bumpAll, List.count_replicate]
      by_cases h : name = "LD Vx,K"
      · rw [if_pos h, if_pos (by rw [h]; rfl)]
      · rw [if_neg h, if_neg (by simpa using Ne.symm h)]
    keys := by
      rw [hnext, keys_attempt_of_awaitKey hlast, hpolled, KeyInput.after_succ] }

/-- A machine that comes upon an instruction which waits for a key stays with it for
as long as its device answers that there is none, and one step longer. Every step of
the wait succeeds, and when it is over nothing but time has passed and the key is in
its register. In every run the flag says of the last step whether it waited. -/
theorem waits_for_key (m : Machine) :
    (∀ k key, m.Fetches (.byte 0xF 0x0A) → 0 ≤ m.delay → 0 ≤ m.sound →
        m.keys.Answers k key →
          m.SucceedsFor (k + 1) ∧ m.Woken k key (attempt^[k + 1] m)) ∧
      ∀ n m', step (attempt^[n] m) = .ok () m' →
        (m'.waitingForKey = true ↔ (attempt^[n] m).Waits) := by
  refine ⟨?_, fun n m' h => waitingForKey_iff h⟩
  intro k key hw hdelay hsound hkeys
  have hfetch := fetches_of_wait hw hkeys.without
  exact ⟨succeedsFor_of_fetches hfetch, woken_of_answers hw hdelay hsound hkeys⟩

/-- A key comes with the third poll. The first step is seen to wait; in the end the
delay timer has run down, and the sound timer was heard once. -/
theorem waits_for_key_third :
    ∃ m : Machine, m = { holding [0xF3, 0x0A] 0 with
        keys := .scripted [none, none, some 7], delay := 2, sound := 1 } ∧
      m.Fetches (.byte 0xF 0x0A) ∧ m.keys.Answers 2 7 ∧ m.SucceedsFor 3 ∧
      (attempt^[1] m).waitingForKey = true ∧
      byteValue ((attempt^[3] m).registers.get 3) = 7 ∧ (attempt^[3] m).delay = 0 ∧
      ((attempt^[3] m).output.beepCount : Int) - m.output.beepCount = 1 := by
  obtain ⟨m, hm⟩ : ∃ m : Machine, m = { holding [0xF3, 0x0A] 0 with
      keys := .scripted [none, none, some 7], delay := 2, sound := 1 } := ⟨_, rfl⟩
  have hmem : m.memory = initialMemory [0xF3, 0x0A] := by rw [hm]; rfl
  have hpc : m.pc = 0x200 := by rw [hm]; rfl
  have hdelay : m.delay = 2 := by rw [hm]
  have hsound : m.sound = 1 := by rw [hm]
  have hword : m.word = 0xF30A := by
    rw [word_of_image _ hmem (by decide) 0 hpc (by decide)]
    rfl
  have hw : m.Fetches (.byte 0xF 0x0A) :=
    ⟨fits_pc_iff.2 (by omega), by rw [hword]; decide⟩
  have hkeys : m.keys.Answers 2 7 := by
    rw [hm]
    refine ⟨?_, rfl⟩
    intro n hn
    obtain rfl | rfl : n = 0 ∨ n = 1 := by omega
    · rfl
    · rfl
  obtain ⟨hs, hwoken⟩ :=
    (waits_for_key m).1 2 7 hw (by omega) (by omega) hkeys
  have hfirst := step_of_awaitKey hw
  have hwaits : m.Waits := ⟨hw, hkeys.without 0 (by decide)⟩
  refine ⟨m, hm, hw, hkeys, hs, ?_, ?_, ?_, ?_⟩
  · rw [Function.iterate_one, attempt_of_ok hfirst]
    exact ((waits_for_key m).2 0 _ hfirst).2 hwaits
  · have hnamed := hwoken.named ⟨by decide, by decide⟩
    rw [hword] at hnamed
    exact hnamed
  · rw [hwoken.delay, hdelay]
    rfl
  · rw [hwoken.beeps, hsound]
    rfl

end Machine

end ChipEight
