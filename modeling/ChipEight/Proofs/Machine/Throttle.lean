import ChipEight.Proofs.Machine.Run
import Mathlib.Algebra.Order.Field.Rat
import Mathlib.Tactic.Linarith

/-!
# A run keeps to its rate

The rate of a run is a bound: after `k` instructions at least `k` periods have passed.
Here times are rational numbers, so that nothing is lost to rounding, and the clock is
`Honest`: it does not go back, and a sleep takes no less time than was asked for.

The pacer after `k` instructions is `course … k`, and `Paced` is the invariant that carries
the bound. Its deadline is not before the start and `k` periods, and no later reading of the
clock is before the deadline. A deadline only ever moves on by a period or, after a stall,
by more. In front of the clock it is slept for, and for a period at most, because the clock
had reached the deadline before.

A stall is forgotten at once. Whatever an instruction took, the deadline is behind the
readings taken for it by the allowed lag at most, so there is never more than that to be
made good.
-/

namespace ChipEight

/-- Times without limits on their size, and without rounding. -/
instance : Timeline Rat where
  later time wait := .ok (time + wait)
  since time time' := .ok (time - time')

namespace Pacer

/-- The pacer after so many instructions. -/
def course (period lag : Rat) (clock : Clock Rat) (n : Nat) : Pacer Rat :=
  (keep (some period) lag clock)^[n] (start clock)

end Pacer

/-- A clock that does not go back, and that is on by what was asked for after each sleep
that so many instructions at a rate led to. -/
structure Clock.Honest (clock : Clock Rat) (period lag : Rat) (n : Nat) : Prop where
  forward : Monotone clock.reading
  slept : ∀ k < n, ∀ move, (Pacer.course period lag clock k).next period lag clock = .ok move →
    ∀ wait ∈ move.sleep,
      clock.reading (Pacer.course period lag clock k).readings + wait ≤
        clock.reading move.readings

namespace Pacer

variable {period lag : Rat} {clock : Clock Rat} {p : Pacer Rat} {move : Move Rat} {k n : Nat}

/-- A pacer after `k` instructions: the clock has reached a deadline that `k` periods have
led to, and no sleep was longer than one of them. -/
structure Paced (period : Rat) (clock : Clock Rat) (k : Nat) (p : Pacer Rat) : Prop where
  deadline : clock.reading 0 + k * period ≤ p.deadline
  reached : ∀ i, p.readings ≤ i → p.deadline ≤ clock.reading i
  sleeps : ∀ wait ∈ p.sleeps, 0 < wait ∧ wait ≤ period

/-! ## One instruction -/

/-- A pacer sleeps until its next deadline, gives up the time lost, or lets it be. -/
theorem next_cases (h : p.next period lag clock = .ok move) :
    (0 < p.deadline + period - clock.reading p.readings ∧
      move = ⟨p.deadline + period, p.readings + 1,
        some (p.deadline + period - clock.reading p.readings)⟩) ∨
    (p.deadline + period - clock.reading p.readings ≤ 0 ∧
      move = ⟨clock.reading (p.readings + 1), p.readings + 2, none⟩) ∨
    (p.deadline + period - clock.reading p.readings ≤ 0 ∧
      -lag ≤ p.deadline + period - clock.reading p.readings ∧
      move = ⟨p.deadline + period, p.readings + 1, none⟩) := by
  rw [next_of_times rfl rfl] at h
  split at h
  · next hwait =>
      split at h
      · cases h
        exact Or.inl ⟨hwait, rfl⟩
      · cases h
  · next hwait =>
      split at h
      · cases h
        exact Or.inr (Or.inl ⟨not_lt.1 hwait, rfl⟩)
      · next hlag =>
          cases h
          exact Or.inr (Or.inr ⟨not_lt.1 hwait, not_lt.1 hlag, rfl⟩)

theorem paced_start (hf : Monotone clock.reading) : Paced period clock 0 (start clock) where
  deadline := by simp [start]
  reached i _ := hf (Nat.zero_le i)
  sleeps wait hw := by simp [start] at hw

/-- One more instruction is one more period, and the sleep for it is no longer than that. -/
theorem Paced.follow (hf : Monotone clock.reading) (hp : Paced period clock k p)
    (h : p.next period lag clock = .ok move)
    (hs : ∀ wait ∈ move.sleep, clock.reading p.readings + wait ≤ clock.reading move.readings) :
    Paced period clock (k + 1) (p.follow move) := by
  have hdeadline : clock.reading 0 + (k + 1 : Nat) * period ≤ p.deadline + period := by
    have := hp.deadline
    push_cast
    linarith
  have hreached := hp.reached p.readings (le_refl _)
  obtain ⟨hwait, rfl⟩ | ⟨hwait, rfl⟩ | ⟨hwait, -, rfl⟩ := next_cases h
  · refine ⟨hdeadline, fun i hi => ?_, fun wait hw => ?_⟩
    · have hslept := hs _ rfl
      have hi' : clock.reading (p.readings + 1) ≤ clock.reading i := hf hi
      show p.deadline + period ≤ clock.reading i
      linarith
    · rcases Array.mem_push.1 hw with hw | rfl
      · exact hp.sleeps wait hw
      · exact ⟨hwait, by linarith⟩
  · have hnow : clock.reading p.readings ≤ clock.reading (p.readings + 1) :=
      hf (Nat.le_succ _)
    refine ⟨?_, fun i hi => ?_, hp.sleeps⟩
    · show clock.reading 0 + (k + 1 : Nat) * period ≤ clock.reading (p.readings + 1)
      linarith
    · exact hf (Nat.le_of_succ_le hi)
  · refine ⟨hdeadline, fun i hi => ?_, hp.sleeps⟩
    have hi' : clock.reading p.readings ≤ clock.reading i := hf (Nat.le_of_succ_le hi)
    show p.deadline + period ≤ clock.reading i
    linarith

/-- However long an instruction took, its readings are ahead of the next deadline by the
lag at most. -/
theorem deadline_of_next (hf : Monotone clock.reading) (hl : 0 ≤ lag)
    (h : p.next period lag clock = .ok move) {i : Nat} (hi : p.readings ≤ i)
    (hi' : i < move.readings) : clock.reading i - lag ≤ move.deadline := by
  -- where the deadline moves on by a period, there was one reading, and not too late
  have hclose : -lag ≤ p.deadline + period - clock.reading p.readings →
      i < p.readings + 1 → clock.reading i - lag ≤ p.deadline + period := by
    intro hlag hlt
    obtain rfl : i = p.readings := by omega
    linarith
  obtain ⟨hwait, rfl⟩ | ⟨-, rfl⟩ | ⟨-, hlag, rfl⟩ := next_cases h
  · exact hclose (by linarith) hi'
  · have hnow : clock.reading i ≤ clock.reading (p.readings + 1) := hf (Nat.le_of_lt_succ hi')
    show clock.reading i - lag ≤ clock.reading (p.readings + 1)
    linarith
  · exact hclose hlag hi'

/-! ## Many instructions -/

theorem course_succ (h : (course period lag clock k).next period lag clock = .ok move) :
    course period lag clock (k + 1) = (course period lag clock k).follow move := by
  rw [course, Function.iterate_succ_apply', ← course, keep_of_next h]

theorem paced_course (hc : clock.Honest period lag n)
    (hnext : ∀ k < n, ∃ move, (course period lag clock k).next period lag clock = .ok move)
    (hk : k ≤ n) : Paced period clock k (course period lag clock k) := by
  induction k with
  | zero => exact paced_start hc.forward
  | succ k ih =>
      obtain ⟨move, hmove⟩ := hnext k hk
      rw [course_succ hmove]
      exact (ih (Nat.le_of_succ_le hk)).follow hc.forward hmove (hc.slept k hk move hmove)

end Pacer

namespace Machine

/-! ## The loop -/

/-- The instructions of a run after which it could wait: all that it counts, but for one
after which it could not. -/
def Outcome.paced {τ : Type} (o : Outcome τ) : Nat :=
  match o.ending with
  | .unpaced _ => o.executed - 1
  | _ => o.executed

section

variable {τ : Type} [Timeline τ] [Neg τ] [LT τ] [DecidableLT τ] [OfNat τ 0]
  {q lag : τ} {clock : Clock τ} {limits : Limits}

/-- A loop that was at pacer `p` and paced `k` instructions since, each of which had a next
pacer. A smaller budget would have had it stop at one of the pacers in between. -/
structure Follows (q lag : τ) (clock : Clock τ) (limits : Limits) (budget : Nat)
    (m : Machine) (e : Nat) (p : Pacer τ) (k : Nat) : Prop where
  paced : (drive (some q) lag clock limits budget m e p).paced = e + k
  pacer : (drive (some q) lag clock limits budget m e p).pacer =
    (Pacer.keep (some q) lag clock)^[k] p
  moves : ∀ i < k, ∃ move,
    ((Pacer.keep (some q) lag clock)^[i] p).next q lag clock = .ok move
  before : ∀ i ≤ k, (drive (some q) lag clock limits i m e p).pacer =
    (Pacer.keep (some q) lag clock)^[i] p

variable {budget e k : Nat} {m m' : Machine} {p : Pacer τ} {move : Move τ}

/-- A loop that ends before its pacer has moved. -/
theorem follows_zero {o : Outcome τ}
    (h : drive (some q) lag clock limits budget m e p = o) (hpaced : o.paced = e)
    (hpacer : o.pacer = p) : Follows q lag clock limits budget m e p 0 where
  paced := by rw [h, hpaced, Nat.add_zero]
  pacer := by rw [h, hpacer, Function.iterate_zero_apply]
  moves i hi := absurd hi (Nat.not_lt_zero i)
  before i hi := by
    rw [Nat.le_zero.1 hi]
    rfl

/-- A loop whose pacer moves on once more than that of the loop after the move. -/
theorem follows_succ (hr : ¬ limits.Reached m e) (hs : step m = .ok () m')
    (hn : p.next q lag clock = .ok move)
    (h : Follows q lag clock limits budget m' (e + 1) (p.follow move) k) :
    Follows q lag clock limits (budget + 1) m e p (k + 1) where
  paced := by rw [drive_of_next hr hs hn, h.paced, Nat.add_assoc, Nat.add_comm 1]
  pacer := by
    rw [drive_of_next hr hs hn, h.pacer, Function.iterate_succ_apply, Pacer.keep_of_next hn]
  moves i hi := by
    cases i with
    | zero => exact ⟨move, hn⟩
    | succ i =>
        rw [Function.iterate_succ_apply, Pacer.keep_of_next hn]
        exact h.moves i (Nat.lt_of_succ_lt_succ hi)
  before i hi := by
    cases i with
    | zero => rfl
    | succ i =>
        rw [drive_of_next hr hs hn, Function.iterate_succ_apply, Pacer.keep_of_next hn]
        exact h.before i (Nat.le_of_succ_le_succ hi)

/-- The loop goes from pacer to pacer, whatever its instructions do. -/
theorem exists_follows (q lag : τ) (clock : Clock τ) (limits : Limits) (budget : Nat)
    (m : Machine) (e : Nat) (p : Pacer τ) :
    ∃ k, Follows q lag clock limits budget m e p k := by
  induction budget generalizing m e p with
  | zero => exact ⟨0, follows_zero rfl rfl rfl⟩
  | succ budget ih =>
      by_cases hr : limits.Reached m e
      · exact ⟨0, follows_zero (drive_of_reached hr budget) rfl rfl⟩
      · cases hs : step m with
        | error f m' => exact ⟨0, follows_zero (drive_of_error hr hs budget) rfl rfl⟩
        | ok u m' =>
            cases hn : p.next q lag clock with
            | error f => exact ⟨0, follows_zero (drive_of_unpaced hr hs hn budget) rfl rfl⟩
            | ok move =>
                obtain ⟨k, hk⟩ := ih m' (e + 1) (p.follow move)
                exact ⟨k + 1, follows_succ hr hs hn hk⟩

end

/-! ## The run -/

/-- A run at a rate, where times are exact. -/
def runExactly (clock : Clock Rat) (rate : Rat) (limits : Limits) (budget : Nat)
    (m : Machine) : Outcome Rat :=
  runPaced (if 0 < rate then some (1 / rate) else none) (1 / 10) clock limits budget m

theorem follows_runPaced (period lag : Rat) (clock : Clock Rat) (limits : Limits)
    (budget : Nat) (m : Machine) :
    Follows period lag clock limits budget (m.opened limits) 0 (.start clock)
      (runPaced (some period) lag clock limits budget m).paced := by
  obtain ⟨k, hk⟩ := exists_follows period lag clock limits budget (m.opened limits) 0
    (.start clock)
  have hpaced : (runPaced (some period) lag clock limits budget m).paced = k :=
    hk.paced.trans (Nat.zero_add k)
  rw [hpaced]
  exact hk

/-- A run whose pacers are those of the course, as shorter runs show. After `k`
instructions the clock reads `k` periods at least. A sleep is a period long at most. And
the readings taken for an instruction are no further ahead of the deadline than the lag. -/
structure Throttled (period lag : Rat) (clock : Clock Rat) (limits : Limits) (m : Machine)
    (o : Outcome Rat) : Prop where
  pacer : o.pacer = Pacer.course period lag clock o.paced
  pacers : ∀ k ≤ o.paced, (runPaced (some period) lag clock limits k m).pacer =
    Pacer.course period lag clock k
  rate : ∀ k ≤ o.paced, ∀ i, (Pacer.course period lag clock k).readings ≤ i →
    clock.reading 0 + k * period ≤ clock.reading i
  sleeps : ∀ wait ∈ o.pacer.sleeps, 0 < wait ∧ wait ≤ period
  deadline : ∀ k < o.paced, ∀ i, (Pacer.course period lag clock k).readings ≤ i →
    i < (Pacer.course period lag clock (k + 1)).readings →
      clock.reading i - lag ≤ (Pacer.course period lag clock (k + 1)).deadline

/-- No run is faster than its rate, and none sleeps for longer than a period. -/
theorem run_throttled {rate : Rat} (hr : 0 < rate) {clock : Clock Rat} {limits : Limits}
    {budget : Nat} {m : Machine}
    (hc : clock.Honest (1 / rate) (1 / 10) (runExactly clock rate limits budget m).paced) :
    Throttled (1 / rate) (1 / 10) clock limits m
      (runExactly clock rate limits budget m) := by
  rw [runExactly, if_pos hr] at hc ⊢
  have hfollows := follows_runPaced (1 / rate) (1 / 10) clock limits budget m
  have hpaced := fun k => Pacer.paced_course (k := k) hc hfollows.moves
  have hpacer : (runPaced (some (1 / rate)) (1 / 10) clock limits budget m).pacer =
      Pacer.course (1 / rate) (1 / 10) clock _ := hfollows.pacer
  exact {
    pacer := hpacer
    pacers := hfollows.before
    rate := fun k hk i hi =>
      (hpaced k hk).deadline.trans ((hpaced k hk).reached i hi)
    sleeps := by
      rw [hpacer]
      exact (hpaced _ (le_refl _)).sleeps
    deadline := by
      intro k hk i hi hi'
      obtain ⟨move, hmove⟩ := hfollows.moves k hk
      rw [Pacer.course_succ hmove] at hi' ⊢
      exact Pacer.deadline_of_next hc.forward (by norm_num) hmove hi hi' }

/-- A clock that is read once a second, but for the first reading, which is taken twice. -/
def secondsClock : Clock Rat := { reading := fun i => ((i - 1 : Nat) : Rat) }

theorem next_seconds {p : Pacer Rat} {n : Nat} (hd : p.deadline = n)
    (hr : p.readings = n + 1) :
    p.next (1 / 1) (1 / 10) secondsClock = .ok ⟨(n + 1 : Nat), n + 2, some 1⟩ := by
  have hlater : Timeline.later p.deadline (1 / 1) = .ok ((n + 1 : Nat) : Rat) := by
    show Except.ok (p.deadline + 1 / 1) = _
    rw [hd, div_one, Nat.cast_succ]
  have hsince : Timeline.since ((n + 1 : Nat) : Rat) (secondsClock.reading p.readings) =
      .ok 1 := by
    rw [hr]
    show Except.ok (((n + 1 : Nat) : Rat) - (n : Nat)) = _
    rw [Nat.cast_succ, add_sub_cancel_left]
  rw [Pacer.next_of_times hlater hsince, hr]
  rfl

theorem course_seconds (n : Nat) :
    (Pacer.course (1 / 1) (1 / 10) secondsClock n).deadline = n ∧
      (Pacer.course (1 / 1) (1 / 10) secondsClock n).readings = n + 1 := by
  induction n with
  | zero => exact ⟨rfl, rfl⟩
  | succ n ih =>
      rw [Pacer.course_succ (next_seconds ih.1 ih.2)]
      exact ⟨rfl, rfl⟩

theorem honest_seconds (n : Nat) : secondsClock.Honest (1 / 1) (1 / 10) n where
  forward i j h := Nat.cast_le.2 (Nat.sub_le_sub_right h 1)
  slept k _ move hmove wait hwait := by
    obtain ⟨hd, hr⟩ := course_seconds k
    rw [next_seconds hd hr] at hmove
    cases hmove
    cases hwait
    rw [hr]
    exact (Nat.cast_succ k).ge

/-- A run at one instruction a second that sleeps for a second after its only one. -/
theorem run_throttled_asleep :
    ∃ (m : Machine) (limits : Limits), m.memory = initialMemory [0x00, 0xE0, 0x12, 0x00] ∧
      limits.cycles = some 1 ∧ (0 : Rat) < 1 ∧
      secondsClock.Honest (1 / 1) (1 / 10) (runExactly secondsClock 1 limits 5 m).paced ∧
      (runExactly secondsClock 1 limits 5 m).paced = 1 ∧
      (runExactly secondsClock 1 limits 5 m).pacer.sleeps = #[1] ∧
      Throttled (1 / 1) (1 / 10) secondsClock limits m
        (runExactly secondsClock 1 limits 5 m) := by
  obtain ⟨m, hm⟩ : ∃ m : Machine, m = holding [0x00, 0xE0, 0x12, 0x00] 0 := ⟨_, rfl⟩
  have hw : m.word = 0x00E0 := by
    rw [hm]
    exact word_holding (by decide) (by decide)
  have ho : m.operation? = some .clearScreen :=
    operation?_of_matches (by rw [hm]; decide) (by rw [hw]; decide) trivial
  have hs : step m = .ok () (m.completed .clearScreen) :=
    step_eq_ok_iff.2 ⟨_, ho, rfl, rfl⟩
  have hnext := next_seconds (p := .start secondsClock) (n := 0) rfl rfl
  have hallowed : ¬ ({ cycles := some 1 } : Limits).Reached m 0 := by
    rw [hm]
    simp [Limits.Reached, holding]
  have hopened : m.opened { cycles := some 1 } = m := by
    rw [hm]
    rfl
  have hreached : ({ cycles := some 1 } : Limits).Reached (m.completed .clearScreen) 1 :=
    Or.inr (Or.inr ⟨1, rfl, le_refl _⟩)
  have hrun : drive (some (1 / 1)) (1 / 10) secondsClock { cycles := some 1 } 5
      (m.opened { cycles := some 1 }) 0 (.start secondsClock) =
        ⟨m.completed .clearScreen, 1, ⟨(1 : Nat), 2, #[1]⟩, .returned⟩ := by
    rw [hopened, drive_of_next hallowed hs hnext, drive_of_reached hreached]
    rfl
  have hexact : runExactly secondsClock 1 { cycles := some 1 } 5 m = Outcome.close _ :=
    congrArg Outcome.close hrun
  refine ⟨m, { cycles := some 1 }, ?_, rfl, one_pos, honest_seconds _, ?_, ?_, ?_⟩
  · rw [hm]
    rfl
  · rw [hexact]
    rfl
  · rw [hexact]
    rfl
  · exact run_throttled one_pos (honest_seconds _)

end Machine

end ChipEight
