import ChipEight.Proofs.Machine.Cycle
import Mathlib.Logic.Function.Iterate

/-!
# The device is never behind

The machine draws for itself and shows the result to a device, and the two could
drift apart: a screen changed and not shown, or shown before the whole sprite was
on it, or a fault between the two. None of that happens. Whatever the machine has
been through, the frame that the device received last is the display.

`Presents` says which calls of `step` show something: those that carry out a clear
or a draw to the end. Every such call delivers one frame, even if no cell changed,
and the frame is the display that the call leaves. Every other call, a draw that
fails among them, keeps its hands off both. That is the step lemma, and it is an
equation for the device and one for the display. A run adds them up, and `presented`
is the sum.
-/

namespace ChipEight

/-- A device after it received some frames, and beeps in between. One that keeps
frames has them at the end; every device has counted them. -/
structure Output.Receives (o : Output) (ds : List Display) (o' : Output) : Prop where
  keeps : o'.keepsFrames = o.keepsFrames
  count : o'.frameCount = o.frameCount + ds.length
  frames : o.keepsFrames = true → o'.frames.toList = o.frames.toList ++ ds

namespace Output

variable {o o₁ o₂ : Output} {ds es : List Display}

theorem Receives.refl (o : Output) : o.Receives [] o where
  keeps := rfl
  count := rfl
  frames := fun _ => (List.append_nil _).symm

theorem Receives.trans (h : o.Receives ds o₁) (h' : o₁.Receives es o₂) :
    o.Receives (ds ++ es) o₂ where
  keeps := h'.keeps.trans h.keeps
  count := by rw [h'.count, h.count, List.length_append, Nat.add_assoc]
  frames := by
    intro hk
    rw [h'.frames (h.keeps.trans hk), h.frames hk, List.append_assoc]

theorem receives_deliver (o : Output) (d : Display) : o.Receives [d] (o.deliver d).2 where
  keeps := rfl
  count := rfl
  frames := by
    intro hk
    rw [deliver, if_pos hk, Array.toList_push]

theorem receives_beep (o : Output) : o.Receives [] o.beep.2 where
  keeps := rfl
  count := rfl
  frames := fun _ => (List.append_nil _).symm

end Output

/-- The frames that an operation shows. -/
def Operation.frames (m : Machine) (o : Operation) : List Display :=
  match o with
  | clearScreen => [o.displayAfter m]
  | draw _ _ _ => [o.displayAfter m]
  | _ => []

namespace Machine

/-- The next step succeeds, and it clears the screen or draws. -/
def Presents (m : Machine) : Prop :=
  (∃ m', step m = .ok () m') ∧
    ((Pattern.byte 0x0 0xE0).Matches m.word ∨ (Pattern.family 0xD).Matches m.word)

/-- Whether the next step succeeds. -/
def succeeds (m : Machine) : Bool :=
  match step m with
  | .ok _ _ => true
  | .error _ _ => false

theorem succeeds_iff {m : Machine} : m.succeeds = true ↔ ∃ m', step m = .ok () m' := by
  rw [succeeds]
  cases step m with
  | ok u m' => exact ⟨fun _ => ⟨m', rfl⟩, fun _ => rfl⟩
  | error f m' =>
      constructor
      · intro h
        cases h
      · rintro ⟨n, h⟩
        cases h

instance (m : Machine) : Decidable m.Presents :=
  have : Decidable (∃ m', step m = .ok () m') := decidable_of_iff _ succeeds_iff
  inferInstanceAs (Decidable (_ ∧ _))

/-- The displays that the first `n` calls of `step` leave, of those calls that clear
the screen or draw. -/
def presented (m : Machine) (n : Nat) : List Display :=
  ((List.range n).filter fun i => (attempt^[i] m).Presents).map fun i =>
    (attempt^[i + 1] m).display

/-! ## One operation -/

theorem receives_tick (m : Machine) : m.output.Receives [] m.tick.output := by
  rw [tick_eq]
  by_cases hs : 0 < m.sound
  · rw [if_pos hs]
    exact m.output.receives_beep
  · rw [if_neg hs]
    exact .refl _

theorem receives_completed (m : Machine) (o : Operation) :
    m.output.Receives (o.frames m) (m.completed o).output := by
  -- what is noted, counted and moved on leaves the device alone, and the timers only beep
  have heffect : m.output.Receives (o.frames m) (o.effect m.counted).output := by
    cases o with
    | clearScreen | draw x y n => exact m.output.receives_deliver _
    | _ => exact .refl _
  obtain ⟨n, hn, ho⟩ : ∃ n : Machine, m.completed o = n.tick ∧
      n.output = (o.effect m.counted).output := ⟨_, rfl, rfl⟩
  rw [← ho] at heffect
  rw [hn, ← List.append_nil (o.frames m)]
  exact heffect.trans n.receives_tick

theorem frames_eq {m : Machine} {o : Operation} (ho : m.operation? = some o)
    (hf : o.fault? m = none) :
    o.frames m = if m.Presents then [o.displayAfter m] else [] := by
  have hs := step_eq_ok_iff.2 ⟨o, ho, hf, rfl⟩
  split
  · next hp =>
      -- the word has the pattern, and no other operation has it
      rcases hp.2 with hw | hw
      · obtain rfl := eq_of_matches ho .clearScreen hw trivial
        rfl
      · obtain rfl := eq_of_matches ho (.draw _ _ _) hw ⟨rfl, rfl, rfl⟩
        rfl
  · next hp =>
      obtain ⟨-, hm, -⟩ := operation?_eq_some_iff.1 ho
      cases o with
      | clearScreen => exact absurd ⟨⟨_, hs⟩, Or.inl hm⟩ hp
      | draw x y n => exact absurd ⟨⟨_, hs⟩, Or.inr hm⟩ hp
      | _ => rfl

theorem displayAfter_of_not_presents {m : Machine} {o : Operation}
    (ho : m.operation? = some o) (hf : o.fault? m = none) (hp : ¬ m.Presents) :
    o.displayAfter m = m.display := by
  have hframes := frames_eq ho hf
  rw [if_neg hp] at hframes
  cases o with
  | clearScreen | draw x y n => cases hframes
  | _ => rfl

/-! ## One call -/

/-- A call delivers the display that it leaves, or it touches neither the device's
frames nor the display. -/
theorem receives_attempt (m : Machine) :
    m.output.Receives (if m.Presents then [m.attempt.display] else []) m.attempt.output ∧
      (¬ m.Presents → m.attempt.display = m.display) := by
  cases h : step m with
  | ok u m' =>
      obtain ⟨o, ho, hf, rfl⟩ := step_eq_ok_iff.1 h
      have hd : (m.completed o).display = o.displayAfter m := by rw [completed_eq]
      rw [attempt_of_ok h, hd, ← frames_eq ho hf]
      exact ⟨m.receives_completed o, displayAfter_of_not_presents ho hf⟩
  | error f m' =>
      have hp : ¬ m.Presents := fun ⟨⟨_, hs⟩, _⟩ => nomatch h.symm.trans hs
      rw [if_neg hp, attempt_of_error h, eq_of_step_error h]
      exact ⟨.refl _, fun _ => rfl⟩

/-! ## A run -/

theorem presented_succ (m : Machine) (n : Nat) :
    m.presented (n + 1) = m.presented n ++
      if (attempt^[n] m).Presents then [(attempt^[n] m).attempt.display] else [] := by
  rw [presented, List.range_succ, List.filter_append, List.map_append, ← presented]
  by_cases hp : (attempt^[n] m).Presents
  · simp [hp, Function.iterate_succ_apply']
  · simp [hp]

theorem receives_iterate_attempt (m : Machine) (n : Nat) :
    m.output.Receives (m.presented n) (attempt^[n] m).output := by
  induction n with
  | zero => exact .refl _
  | succ n ih =>
      rw [presented_succ, Function.iterate_succ_apply']
      exact ih.trans (receives_attempt _).1

theorem display_iterate_attempt (m : Machine) (n : Nat) :
    (attempt^[n] m).display = (m.presented n).getLastD m.display := by
  induction n with
  | zero => rfl
  | succ n ih =>
      rw [presented_succ, Function.iterate_succ_apply']
      by_cases hp : (attempt^[n] m).Presents
      · rw [if_pos hp, List.getLastD_concat]
      · rw [if_neg hp, List.append_nil, (receives_attempt _).2 hp, ih]

/-- What a device has of a machine after `n` calls of `step`: one frame for every
call that cleared the screen or drew, each the display as that call left it. The
display is the last of them, and blank as long as there is none. -/
structure UpToDate (m : Machine) (n : Nat) : Prop where
  received : m.output.Receives (m.presented n) (attempt^[n] m).output
  blank : m.presented n = [] → (attempt^[n] m).display = .blank
  last : ∀ d, (m.presented n).getLast? = some d → (attempt^[n] m).display = d

/-- However often a new machine is stepped, and whatever fails on the way, its device
has seen every screen there was, and the last of them is the one there is. -/
theorem device_up_to_date {image : List UInt8} (h : image.length ≤ 3584)
    (keys : KeyInput) (random : Random.Source) (output : Output) (rate : Number) :
    ∃ m, Machine.new image keys random output rate = .ok m ∧ m.output = output ∧
      ∀ n, m.UpToDate n := by
  refine ⟨_, new_eq h keys random output rate, rfl, ?_⟩
  intro n
  exact {
    received := receives_iterate_attempt _ n
    blank := by
      intro hnone
      rw [display_iterate_attempt, hnone]
      rfl
    last := by
      intro d hd
      rw [display_iterate_attempt, List.getLastD_eq_getLast?, hd]
      rfl }

/-- A program that clears a screen which is clear already. It is shown. -/
theorem device_up_to_date_clear :
    ([0x00, 0xE0] : List UInt8).length ≤ 3584 ∧
      ∃ m, Machine.new [0x00, 0xE0] (.scripted [none]) (.rotating [7]) .recording
          (.whole 0) = .ok m ∧ m.output = .recording ∧ (∀ n, m.UpToDate n) ∧
        (attempt^[1] m).output.frames.toList = [.blank] := by
  have hl : ([0x00, 0xE0] : List UInt8).length ≤ 3584 := by decide
  obtain ⟨m, hm, hout, hall⟩ :=
    device_up_to_date hl (.scripted [none]) (.rotating [7]) .recording (.whole 0)
  obtain ⟨hmem, hpc⟩ : m.memory = initialMemory [0x00, 0xE0] ∧ m.pc = 0x200 := by
    rw [← Except.ok.inj ((new_eq hl _ _ _ _).symm.trans hm)]
    exact ⟨rfl, rfl⟩
  have hw : m.word = 0x00E0 := word_of_image _ hmem hl 0 hpc (by decide)
  have ho : m.operation? = some .clearScreen :=
    operation?_of_matches (by omega) (by rw [hw]; decide) trivial
  have hs := step_eq_ok_iff.2 ⟨_, ho, rfl, rfl⟩
  have hp : m.Presents := ⟨⟨_, hs⟩, Or.inl (by rw [hw]; decide)⟩
  have hshown : m.presented 1 = [.blank] := by
    rw [presented_succ, Function.iterate_zero_apply, if_pos hp, attempt_of_ok hs,
      completed_eq]
    rfl
  refine ⟨hl, m, hm, hout, hall, ?_⟩
  rw [(hall 1).received.frames (by rw [hout]; rfl), hshown, hout]
  rfl

end Machine

end ChipEight
