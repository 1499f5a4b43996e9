import ChipEight.Proofs.Machine.Journal
import ChipEight.Proofs.Pacing

/-!
# How many steps a run takes

A run without a period is a loop around `step`, and it looks at three things
before every step: its own stop flag, the event, and the limit. A request may
come before the run, in the middle of an instruction while its frame is shown, at
the end of one with the beep, or during a step that then fails. It may come
together with the limit. The answer is always the same: the run takes as many
steps as there are before the first moment at which one of the three holds, and
if a step fails before that, the run ends with that fault.

Moments are counted by `attempt`: the machine after `k` steps is the `k`-th
iterate of it. `Continues` says of one moment that the loop goes on from there,
`StopsAfter` and `FailsAfter` say which moment is the first from which it does
not, and `EndsAt` says what a budget lets a run see of that. Every run has an end
in this sense, and it reports no other. The budget decides nothing but whether the
run is seen to its end.

The run clears its own flag when it is over, so a request is used up by the run
that obeyed it, or that failed before it could. The event belongs to somebody
else and stays.

What is said about the loop holds with a period as well, as long as there always is a
next pacer: it waits between the steps, and takes the same ones.
-/

namespace ChipEight

namespace Machine

/-- Whether a run that has taken so many steps is to stop now. -/
def Limits.Reached (limits : Limits) (m : Machine) (executed : Nat) : Prop :=
  m.stopRequested = true ∨ (limits.watchesEvent = true ∧ m.eventSet = true) ∨
    ∃ n : Int, limits.cycles = some n ∧ n ≤ executed

/-- Whether a run that has taken so many steps takes one more. -/
def Limits.Continues (limits : Limits) (m : Machine) (executed : Nat) : Prop :=
  ¬ limits.Reached m executed ∧ ∃ m', step m = .ok () m'

/-- The first moment to stop is after `k` steps, and no step before it fails. -/
structure StopsAfter (limits : Limits) (m : Machine) (k : Nat) : Prop where
  before : ∀ i < k, limits.Continues (attempt^[i] m) i
  reached : limits.Reached (attempt^[k] m) k

/-- After `k` steps there has been no moment to stop, and the next step fails. -/
structure FailsAfter (limits : Limits) (m : Machine) (k : Nat) (f : Fault) : Prop where
  before : ∀ i < k, limits.Continues (attempt^[i] m) i
  unreached : ¬ limits.Reached (attempt^[k] m) k
  fault : ∃ m', step (attempt^[k] m) = .error f m'

/-- The machine with its stop request used up. -/
def cleared (m : Machine) : Machine := { m with stopRequested := false }

theorem Limits.allows_iff {limits : Limits} {m : Machine} {k : Nat} :
    limits.allows m k = true ↔ ¬ limits.Reached m k := by
  rw [Limits.allows, Limits.Reached]
  cases limits.watchesEvent <;> cases limits.cycles <;> simp [and_assoc]

/-! ## The end of a run -/

/-- How often a run that ended so called `step`: the call that fails is one more
than those it counts. -/
def Ending.calls (executed : Nat) : Ending → Nat
  | .failed _ => executed + 1
  | _ => executed

/-- Where a run ends that has a budget, and how: at the first moment to stop, at a
step that fails before that, or with its budget. -/
def EndsAt (limits : Limits) (budget : Nat) (m : Machine) (k : Nat) : Ending → Prop
  | .returned => k < budget ∧ m.StopsAfter limits k
  | .failed f => k < budget ∧ m.FailsAfter limits k f
  | .unfinished => k = budget ∧ ∀ i < budget, limits.Continues (attempt^[i] m) i
  | .noPeriod _ => False
  | .unpaced _ => False

theorem exists_endsAt (limits : Limits) (budget : Nat) (m : Machine) :
    ∃ k e, m.EndsAt limits budget k e := by
  induction budget with
  | zero => exact ⟨0, .unfinished, rfl, fun i hi => absurd hi (Nat.not_lt_zero i)⟩
  | succ b ih =>
      obtain ⟨k, e, h⟩ := ih
      -- an end before the budget stays; a spent budget gives way to one more look
      cases e with
      | returned => exact ⟨k, .returned, Nat.lt_succ_of_lt h.1, h.2⟩
      | failed f => exact ⟨k, .failed f, Nat.lt_succ_of_lt h.1, h.2⟩
      | noPeriod f | unpaced f => exact h.elim
      | unfinished =>
          obtain ⟨rfl, hall⟩ := h
          by_cases hr : limits.Reached (attempt^[k] m) k
          · exact ⟨k, .returned, Nat.lt_succ_self k, hall, hr⟩
          · cases hs : step (attempt^[k] m) with
            | ok u m' =>
                refine ⟨k + 1, .unfinished, rfl, fun i hi => ?_⟩
                rcases Nat.lt_succ_iff_lt_or_eq.1 hi with hlt | rfl
                · exact hall i hlt
                · exact ⟨hr, m', hs⟩
            | error f m' =>
                exact ⟨k, .failed f, Nat.lt_succ_self k, hall, hr, m', hs⟩

theorem Lockstep.reached {R : Machine → Machine → Prop} (hR : Lockstep R)
    {limits : Limits} {m m' : Machine} (h : R m m') {k : Nat} :
    limits.Reached m' k ↔ limits.Reached m k := by
  obtain ⟨hstop, hevent⟩ := hR.flags m m' h
  rw [Limits.Reached, Limits.Reached, hstop, hevent]

/-- Where a run ends is a matter of the flags it looks at and of the steps that succeed or
fail, with which fault. -/
theorem Lockstep.endsAt {R : Machine → Machine → Prop} (hR : Lockstep R)
    {limits : Limits} {budget k : Nat} {m m' : Machine} {e : Ending} (h : R m m')
    (he : m.EndsAt limits budget k e) : m'.EndsAt limits budget k e := by
  have hall := fun i => hR.iterate_attempt h i
  have hcontinues : ∀ i, limits.Continues (Machine.attempt^[i] m) i →
      limits.Continues (Machine.attempt^[i] m') i :=
    fun i hi => ⟨fun hr => hi.1 ((hR.reached (hall i)).1 hr),
      (hR.exists_ok_iff (hall i)).2 hi.2⟩
  cases e with
  | returned =>
      exact ⟨he.1, fun i hi => hcontinues i (he.2.before i hi),
        (hR.reached (hall k)).2 he.2.reached⟩
  | failed f =>
      exact ⟨he.1, fun i hi => hcontinues i (he.2.before i hi),
        fun hr => he.2.unreached ((hR.reached (hall k)).1 hr),
        (hR.exists_error_iff (hall k)).2 he.2.fault⟩
  | noPeriod f | unpaced f => exact he
  | unfinished => exact ⟨he.1, fun i hi => hcontinues i (he.2 i hi)⟩

/-! ## The loop -/

section

variable {τ : Type} [Timeline τ] [Neg τ] [LT τ] [DecidableLT τ] [OfNat τ 0]
  {period : Option τ} {maxLag : τ} {clock : Clock τ} {limits : Limits} {m : Machine}
  {p : Pacer τ} {budget k : Nat}

/-- The loop of a run whose clock is known beforehand. -/
def drive (period : Option τ) (maxLag : τ) (clock : Clock τ) (limits : Limits) (budget : Nat)
    (m : Machine) (e : Nat) (p : Pacer τ) : Outcome τ :=
  Id.run (driveIn (fun p => pure (pace period maxLag clock p)) limits budget m e p)

theorem drive_succ (e budget : Nat) :
    drive period maxLag clock limits (budget + 1) m e p =
      if limits.allows m e then
        match step m with
        | .error f m => ⟨m, e, p, .failed f⟩
        | .ok _ m =>
            match pace period maxLag clock p with
            | .error f => ⟨m, e + 1, p, .unpaced f⟩
            | .ok p => drive period maxLag clock limits budget m (e + 1) p
      else ⟨m, e, p, .returned⟩ := by
  rw [drive, driveIn]
  split
  · cases step m with
    | error f m' => rfl
    | ok u m' =>
        show Id.run (pure (pace period maxLag clock p) >>= _) = _
        rw [Id.run_bind]
        cases pace period maxLag clock p <;> rfl
  · rfl

theorem drive_of_reached {e : Nat} (h : limits.Reached m e) (budget : Nat) :
    drive period maxLag clock limits (budget + 1) m e p = ⟨m, e, p, .returned⟩ := by
  have hno : ¬ limits.allows m e = true := by
    rw [Limits.allows_iff]
    exact fun hn => hn h
  rw [drive_succ, if_neg hno]

theorem drive_of_error {e : Nat} (h : ¬ limits.Reached m e) {f : Fault} {m' : Machine}
    (hs : step m = .error f m') (budget : Nat) :
    drive period maxLag clock limits (budget + 1) m e p = ⟨m', e, p, .failed f⟩ := by
  rw [drive_succ, if_pos (Limits.allows_iff.2 h), hs]

theorem drive_of_unpaced {e : Nat} (h : ¬ limits.Reached m e) {m' : Machine}
    (hs : step m = .ok () m') {q : τ} {f : PacingFault}
    (hn : p.next q maxLag clock = .error f) (budget : Nat) :
    drive (some q) maxLag clock limits (budget + 1) m e p = ⟨m', e + 1, p, .unpaced f⟩ := by
  rw [drive_succ, if_pos (Limits.allows_iff.2 h), hs]
  simp only [pace, hn]
  rfl

theorem drive_of_next {e : Nat} (h : ¬ limits.Reached m e) {m' : Machine}
    (hs : step m = .ok () m') {q : τ} {move : Move τ}
    (hn : p.next q maxLag clock = .ok move) (budget : Nat) :
    drive (some q) maxLag clock limits (budget + 1) m e p =
      drive (some q) maxLag clock limits budget m' (e + 1) (p.follow move) := by
  rw [drive_succ, if_pos (Limits.allows_iff.2 h), hs]
  simp only [pace, hn]
  rfl

theorem drive_of_continues {e : Nat} (h : limits.Continues m e)
    (hp : p.Sustained period maxLag clock) (budget : Nat) :
    drive period maxLag clock limits (budget + 1) m e p =
      drive period maxLag clock limits budget m.attempt (e + 1)
        (p.keep period maxLag clock) := by
  obtain ⟨hn, m', hs⟩ := h
  rw [attempt_of_ok hs]
  cases period with
  | none =>
      rw [drive_succ, if_pos (Limits.allows_iff.2 hn), hs]
      rfl
  | some q =>
      obtain ⟨move, hmove⟩ := hp 0 q rfl
      rw [Function.iterate_zero_apply] at hmove
      rw [drive_of_next hn hs hmove, Pacer.keep_of_next hmove]

/-- As long as it goes on, the loop spends its budget on steps. -/
theorem drive_iterate (h : ∀ i < k, limits.Continues (attempt^[i] m) i)
    (hp : p.Sustained period maxLag clock) (budget : Nat) :
    drive period maxLag clock limits (k + budget) m 0 p =
      drive period maxLag clock limits budget (attempt^[k] m) k
        ((Pacer.keep period maxLag clock)^[k] p) := by
  induction k generalizing budget with
  | zero =>
      rw [Nat.zero_add]
      rfl
  | succ k ih =>
      have hbefore : ∀ i < k, limits.Continues (attempt^[i] m) i :=
        fun i hi => h i (Nat.lt_succ_of_lt hi)
      rw [Nat.add_assoc, Nat.add_comm 1, ih hbefore,
        drive_of_continues (h k (Nat.lt_succ_self k)) (hp.iterate k),
        Function.iterate_succ_apply', Function.iterate_succ_apply']

/-- A loop that can be paced ends where the machine has its end, and its pacer has moved
on once for every step it counts. -/
theorem drive_of_endsAt (hp : p.Sustained period maxLag clock) {e : Ending}
    (h : m.EndsAt limits budget k e) :
    drive period maxLag clock limits budget m 0 p =
      ⟨attempt^[e.calls k] m, k, (Pacer.keep period maxLag clock)^[k] p, e⟩ := by
  cases e with
  | returned =>
      obtain ⟨b, rfl⟩ : ∃ b, budget = k + (b + 1) := ⟨budget - k - 1, by have := h.1; omega⟩
      rw [drive_iterate h.2.before hp, drive_of_reached h.2.reached]
      rfl
  | failed f =>
      obtain ⟨b, rfl⟩ : ∃ b, budget = k + (b + 1) := ⟨budget - k - 1, by have := h.1; omega⟩
      obtain ⟨m', hs⟩ := h.2.fault
      rw [drive_iterate h.2.before hp, drive_of_error h.2.unreached hs, Ending.calls,
        Function.iterate_succ_apply', attempt_of_error hs]
  | noPeriod f | unpaced f => exact h.elim
  | unfinished =>
      obtain ⟨rfl, hall⟩ := h
      exact drive_iterate hall hp 0

end

/-! ## The run -/

theorem period?_of_not_positive {rate : Number} (h : rate.isPositive = false) :
    period? rate = .ok none := by
  rw [period?, h]
  rfl

/-- The machine at which a run starts its loop. -/
def opened (limits : Limits) (m : Machine) : Machine :=
  m.note (m.openingLine limits.cycles)

/-- The machine that a run hands back when its loop has come to its end. -/
def closed (m : Machine) (executed : Nat) : Machine :=
  m.cleared.note (closingLine executed)

theorem opened_alike (limits : Limits) (m : Machine) : m.Alike (m.opened limits) :=
  alike_note m _

theorem Alike.cleared {m m' : Machine} (h : m.Alike m') : m.cleared.Alike m'.cleared := by
  obtain ⟨j, rfl⟩ := h
  exact ⟨j, rfl⟩

theorem closed_alike (limits : Limits) (m : Machine) (k executed : Nat) :
    (attempt^[k] m).cleared.Alike ((attempt^[k] (m.opened limits)).closed executed) := by
  have hloop := ((m.opened_alike limits).iterate_attempt k).cleared
  exact hloop.trans (alike_note _ _)

theorem note_of_not_tracing {m : Machine} (h : m.journal.tracing = false) (line : String) :
    m.note line = m := by
  rw [note, Journal.note_of_not_tracing h]

theorem closed_of_not_tracing {limits : Limits} {m : Machine}
    (h : m.journal.tracing = false) (k executed : Nat) :
    (attempt^[k] (m.opened limits)).closed executed = (attempt^[k] m).cleared := by
  have hend : (attempt^[k] m).cleared.journal.tracing = false := by
    rw [cleared, journal_iterate_attempt h]
    exact h
  rw [opened, note_of_not_tracing h, closed, note_of_not_tracing hend]

theorem runPaced_eq {τ : Type} [Timeline τ] [Neg τ] [LT τ] [DecidableLT τ] [OfNat τ 0]
    (period : Option τ) (maxLag : τ) (clock : Clock τ) (limits : Limits) (budget : Nat)
    (m : Machine) :
    runPaced period maxLag clock limits budget m =
      (drive period maxLag clock limits budget (m.opened limits) 0 (.start clock)).close := rfl

/-- A run that can be paced ends where it has its end. -/
theorem runPaced_of_endsAt {τ : Type} [Timeline τ] [Neg τ] [LT τ] [DecidableLT τ]
    [OfNat τ 0] {period : Option τ} {maxLag : τ} {clock : Clock τ} {limits : Limits}
    {budget k : Nat} {m : Machine} {e : Ending}
    (hp : (Pacer.start clock).Sustained period maxLag clock)
    (h : m.EndsAt limits budget k e) :
    runPaced period maxLag clock limits budget m =
      ⟨(attempt^[e.calls k] (m.opened limits)).closed k, k,
        (Pacer.keep period maxLag clock)^[k] (.start clock), e⟩ := by
  rw [runPaced_eq, drive_of_endsAt hp (lockstep_alike.endsAt (m.opened_alike limits) h)]
  rfl

/-- Without a period nothing is asked of the clock. -/
theorem run_of_endsAt {m : Machine} (hr : m.rate.isPositive = false)
    (clock : Clock Number) {limits : Limits} {budget k : Nat} {e : Ending}
    (h : m.EndsAt limits budget k e) :
    run clock limits budget m =
      ⟨(attempt^[e.calls k] (m.opened limits)).closed k, k, .start clock, e⟩ := by
  have hrun : runPaced none maxLag clock limits budget m = _ :=
    runPaced_of_endsAt Pacer.sustained_none h
  rw [Pacer.iterate_keep_none] at hrun
  rw [run, period?_of_not_positive hr]
  exact hrun

/-! ## What a run counts -/

theorem cycles_attempt_of_ok {m m' : Machine} (h : step m = .ok () m') :
    m.attempt.cycles = m.cycles + 1 := by
  obtain ⟨o, -, -, rfl⟩ := step_eq_ok_iff.1 h
  rw [attempt_of_ok h, completed_eq]

theorem cycles_attempt_of_error {m m' : Machine} {f : Fault} (h : step m = .error f m') :
    m.attempt.cycles = m.cycles := by
  rw [attempt_of_error h, eq_of_step_error h]

theorem cycles_iterate_attempt {limits : Limits} {m : Machine} {k : Nat}
    (h : ∀ i < k, limits.Continues (attempt^[i] m) i) :
    (attempt^[k] m).cycles = m.cycles + k := by
  induction k with
  | zero => rfl
  | succ k ih =>
      obtain ⟨-, m', hs⟩ := h k (Nat.lt_succ_self k)
      rw [Function.iterate_succ_apply', cycles_attempt_of_ok hs,
        ih fun i hi => h i (Nat.lt_succ_of_lt hi), Nat.add_assoc]

theorem cycles_of_endsAt {limits : Limits} {budget k : Nat} {m : Machine} {e : Ending}
    (h : m.EndsAt limits budget k e) : (attempt^[e.calls k] m).cycles = m.cycles + k := by
  cases e with
  | returned => exact cycles_iterate_attempt h.2.before
  | failed f =>
      obtain ⟨m', hs⟩ := h.2.fault
      show (attempt^[k + 1] m).cycles = m.cycles + k
      rw [Function.iterate_succ_apply', cycles_attempt_of_error hs]
      exact cycles_iterate_attempt h.2.before
  | noPeriod f | unpaced f => exact h.elim
  | unfinished =>
      obtain ⟨rfl, hall⟩ := h
      exact cycles_iterate_attempt hall

/-- What a run comes to. It reports the one end it has, and has counted the steps
before it. The machine it leaves is the one that so many calls of `step` make of the
first, with the stop request used up; that includes the event. Without tracing it is
that machine to the letter. -/
structure Accounted (limits : Limits) (budget : Nat) (m : Machine) (o : Outcome Number) :
    Prop where
  ends : ∀ k e, (o.executed = k ∧ o.ending = e) ↔ m.EndsAt limits budget k e
  cycles : o.machine.cycles = m.cycles + o.executed
  flag : o.machine.stopRequested = false
  event : o.machine.eventSet = (attempt^[o.ending.calls o.executed] m).eventSet
  machine : (attempt^[o.ending.calls o.executed] m).cleared.Alike o.machine
  untraced : m.journal.tracing = false →
    o.machine = (attempt^[o.ending.calls o.executed] m).cleared

/-- A run without a period takes the steps up to the first moment at which its flag
is set, the event is set or the limit is reached, and no more. -/
theorem run_accounted {m : Machine} (hr : m.rate.isPositive = false)
    (clock : Clock Number) (limits : Limits) (budget : Nat) :
    Accounted limits budget m (run clock limits budget m) := by
  obtain ⟨k, e, h⟩ := exists_endsAt limits budget m
  have hrun := run_of_endsAt hr clock h
  have halike := closed_alike limits m (e.calls k) k
  -- the run reports every end there is, so there is only the one
  have hends : ∀ k' e', ((run clock limits budget m).executed = k' ∧
      (run clock limits budget m).ending = e') ↔ m.EndsAt limits budget k' e' := by
    intro k' e'
    constructor
    · rintro ⟨rfl, rfl⟩
      rw [hrun]
      exact h
    · intro h'
      rw [run_of_endsAt hr clock h']
      exact ⟨rfl, rfl⟩
  rw [hrun] at hends ⊢
  obtain ⟨j, hj⟩ := halike
  exact {
    ends := hends
    cycles := by
      rw [hj]
      exact cycles_of_endsAt h
    flag := rfl
    event := by
      rw [hj]
      rfl
    machine := ⟨j, hj⟩
    untraced := fun hq => closed_of_not_tracing hq _ _ }

/-- A machine that shows a frame to a device which then asks for the run to stop. -/
theorem run_accounted_stopped :
    ∃ m : Machine, m.memory = initialMemory [0x00, 0xE0, 0x12, 0x00] ∧
      m.rate.isPositive = false ∧ m.StopsAfter {} 1 ∧
      (run standingClock {} 5 m).ending = .returned ∧
      (run standingClock {} 5 m).executed = 1 ∧
      Accounted {} 5 m (run standingClock {} 5 m) := by
  obtain ⟨m, hm⟩ : ∃ m : Machine, m = { holding [0x00, 0xE0, 0x12, 0x00] 0 with
      output := Output.discarding.requesting .frame 1 { run := true } } := ⟨_, rfl⟩
  have hmem : m.memory = initialMemory [0x00, 0xE0, 0x12, 0x00] := by rw [hm]; rfl
  have hpc : m.pc = 0x200 := by rw [hm]; rfl
  have hw : m.word = 0x00E0 := by
    rw [word_of_image _ hmem (by decide) 0 hpc (by decide)]
    rfl
  have ho : m.operation? = some .clearScreen :=
    operation?_of_matches (by omega) (by rw [hw]; decide) trivial
  have hs : step m = .ok () (m.completed .clearScreen) :=
    step_eq_ok_iff.2 ⟨_, ho, rfl, rfl⟩
  have hstop : m.StopsAfter {} 1 := {
    before := by
      intro i hi
      obtain rfl : i = 0 := by omega
      refine ⟨?_, _, hs⟩
      rw [hm]
      simp [Limits.Reached, holding]
    reached := by
      refine Or.inl ?_
      rw [Function.iterate_one, attempt_of_ok hs, hm]
      rfl }
  have hr : m.rate.isPositive = false := by rw [hm]; rfl
  have hall := run_accounted hr standingClock {} 5
  obtain ⟨hone, hret⟩ := (hall.ends 1 .returned).2 ⟨by decide, hstop⟩
  exact ⟨m, hmem, hr, hstop, hret, hone, hall⟩

end Machine

end ChipEight
