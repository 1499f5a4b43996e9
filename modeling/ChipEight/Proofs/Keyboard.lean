import ChipEight.Keyboard
import ChipEight.Proofs.Dictionary
import ChipEight.Proofs.Keypad.Quiet
import Mathlib.Algebra.Ring.Int.Defs

/-!
# A keyboard and its keypad

The keyboard and the keypad each have an idea of which key is held. As long as nobody else
drives the keypad they agree, whatever is typed and whatever the clock says, and the
keyboard's idea is a simple one (`Tracks`): a key is held from a keystroke for it, while
none is held, until the keyboard is stopped or found to be due. The time at which it is due
is one hold after the latest keystroke for it.

There may be no such time, where a hold is a whole number too great for a double and the
clock reads doubles. Then the keystroke fails, but not before the key is held, and what
becomes of the key is decided by the time that an earlier keystroke left behind, be it one
for another key, or by the time with which the keyboard started. This is the one way in
which a key can come up too early.
-/

namespace ChipEight.Keyboard

open Text (Points)

/-- What can happen to a keyboard. -/
inductive Input (τ : Type) where
  | feed (text : Points) (now : τ)
  | expire (now : τ)
  | stop

/-- A keystroke for a key, by a map that is in lower case. -/
def Types {τ : Type} (keymap : List (Points × Int)) (key : Int) : Input τ → Prop
  | .feed text _ => keymap.lookup (Text.lower text) = some key
  | _ => False

/-- The time until which a keystroke holds its key: one hold after it, and where there is no
such time, the time that was set before. -/
def holdEnd {τ : Type} [Timeline τ] (hold now before : τ) : τ :=
  match Timeline.later now hold with
  | .ok t => t
  | .error _ => before

variable {τ : Type}

/-- The keypad holds what the keyboard takes it to hold, nobody reacts at it, and every letter
stands for a key. -/
structure Coupled (k : Keyboard τ) : Prop where
  agree : k.keypad.held = k.held
  quiet : k.keypad.pending = 0
  keys : ∀ text key, k.keymap.lookup text = some key → Keypad.IsKey key
  held : ∀ key, k.held = some key → Keypad.IsKey key

theorem onKeypad_of_ok {k : Keyboard τ} {call : Keypad.Call} {pad : Keypad} {a : Option Bool}
    (h : k.keypad.perform call = (pad, .ok a)) :
    k.onKeypad call = ({ k with keypad := pad }, .ok a) := by
  rw [onKeypad, h]
  rfl

/-! ## Maps in lower case -/

theorem isKey_of_mem_lowered {keymap : List (Points × Int)}
    (h : ∀ e ∈ keymap, Keypad.IsKey e.2) : ∀ e ∈ lowered keymap, Keypad.IsKey e.2 := by
  suffices hfold : ∀ m : Dictionary Points Int, (∀ e ∈ m, Keypad.IsKey e.2) →
      ∀ e ∈ keymap.foldl (fun m e => m.put (Text.lower e.1) e.2) m, Keypad.IsKey e.2 from
    hfold [] fun _ he => nomatch he
  induction keymap with
  | nil => exact fun m hm => hm
  | cons e rest ih =>
      intro m hm
      refine ih (fun e' he' => h e' (List.mem_cons_of_mem _ he')) _ fun e' he' => ?_
      rcases Dictionary.mem_put he' with heq | hmem
      · rw [heq]
        exact h e List.mem_cons_self
      · exact hm e' hmem

theorem coupled_new {keymap : List (Points × Int)} (h : ∀ e ∈ keymap, Keypad.IsKey e.2)
    (hold start : τ) {pad : Keypad} (hfree : pad.held = none) (hquiet : pad.pending = 0) :
    ({ new keymap hold start with keypad := pad } : Keyboard τ).Coupled where
  agree := hfree
  quiet := hquiet
  keys text key hlookup := by
    obtain ⟨before, behind, hsplit, -⟩ := List.lookup_eq_some_iff.1 hlookup
    have hmem : (text, key) ∈ before ++ (text, key) :: behind :=
      List.mem_append_right _ List.mem_cons_self
    rw [← hsplit] at hmem
    exact isKey_of_mem_lowered h _ hmem
  held _ hheld := nomatch hheld

/-! ## Keystrokes -/

section

variable [Timeline τ]

theorem extend_fst (k : Keyboard τ) (now : τ) :
    (k.extend now).1 = { k with releaseAt := holdEnd k.hold now k.releaseAt } := by
  rw [extend, holdEnd]
  cases Timeline.later now k.hold <;> rfl

theorem feed_of_not_mapped {k : Keyboard τ} {text : Points}
    (h : k.keymap.lookup (Text.lower text) = none) (now : τ) : k.feed text now = (k, .ok ()) := by
  rw [feed, h]

theorem feed_of_same {k : Keyboard τ} {text : Points} {key : Int}
    (h : k.keymap.lookup (Text.lower text) = some key) (hheld : k.held = some key) (now : τ) :
    k.feed text now = k.extend now := by
  rw [feed, h]
  exact if_pos hheld

theorem feed_of_other {k : Keyboard τ} {text : Points} {key key' : Int}
    (h : k.keymap.lookup (Text.lower text) = some key') (hheld : k.held = some key)
    (hne : key ≠ key') (now : τ) : k.feed text now = (k, .ok ()) := by
  rw [feed, h]
  dsimp only
  rw [if_neg (by simpa [hheld] using hne), if_pos (by simp [hheld])]

theorem Coupled.feed_of_free {k : Keyboard τ} (hk : k.Coupled) {text : Points} {key : Int}
    (h : k.keymap.lookup (Text.lower text) = some key) (hfree : k.held = none) (now : τ) :
    ∃ history, k.feed text now =
      { k with
        held := some key
        keypad := { k.keypad with held := some key, history := history } }.extend now := by
  obtain ⟨history, hpress⟩ := Keypad.perform_press_of_quiet hk.quiet (hk.keys _ _ h)
    (hk.agree.trans hfree)
  refine ⟨history, ?_⟩
  rw [feed, h]
  dsimp only
  rw [if_neg (by simp [hfree]), if_neg (by simp [hfree]), onKeypad_of_ok hpress]

end

/-! ## Release -/

section

variable [LE τ] [DecidableLE τ]

theorem expire_of_free {k : Keyboard τ} (hfree : k.held = none) (now : τ) :
    k.expire now = (k, .ok ()) := by
  rw [expire, hfree]

theorem expire_of_early {k : Keyboard τ} {now : τ} (h : ¬ k.releaseAt ≤ now) :
    k.expire now = (k, .ok ()) := by
  rw [expire]
  split
  · rfl
  · exact if_neg h

theorem Coupled.expire_of_due {k : Keyboard τ} (hk : k.Coupled) {key : Int} {now : τ}
    (hheld : k.held = some key) (hdue : k.releaseAt ≤ now) :
    ∃ history, k.expire now =
      ({ k with
        held := none
        keypad := { k.keypad with held := none, history := history } }, .ok ()) := by
  obtain ⟨history, hrelease⟩ := Keypad.perform_release_of_quiet hk.quiet (hk.held key hheld)
    (hk.agree.trans hheld)
  refine ⟨history, ?_⟩
  rw [expire, hheld]
  dsimp only
  rw [if_pos hdue, onKeypad_of_ok hrelease]

end

theorem Coupled.stop_eq {k : Keyboard τ} (hk : k.Coupled) :
    ∃ history, k.stop =
      ({ k with
        held := none
        keypad := { k.keypad with held := none, history := history }
        stopped := true }, .ok ()) := by
  obtain ⟨history, hrelease⟩ := Keypad.perform_releaseAll_of_quiet hk.quiet
  have hcall : ({ k with stopped := true } : Keyboard τ).onKeypad .releaseAll = _ :=
    onKeypad_of_ok hrelease
  refine ⟨history, ?_⟩
  rw [stop, hcall]

/-! ## What an input can do -/

section

variable [Timeline τ] [LE τ]

/-- All that an input can do to the key that is held and to the time until which it is. -/
inductive Moves (k : Keyboard τ) : Input τ → Keyboard τ → Prop where
  | pressed {text : Points} {now : τ} {key : Int} {k' : Keyboard τ} (free : k.held = none)
      (typed : Types k.keymap key (.feed text now)) (held : k'.held = some key)
      (until_ : k'.releaseAt = holdEnd k.hold now k.releaseAt) : Moves k (.feed text now) k'
  | extended {text : Points} {now : τ} {key : Int} (held : k.held = some key)
      (typed : Types k.keymap key (.feed text now)) :
      Moves k (.feed text now) { k with releaseAt := holdEnd k.hold now k.releaseAt }
  | dropped {text : Points} {now : τ}
      (other : ∀ key, Types k.keymap key (.feed text now) →
        k.held ≠ none ∧ k.held ≠ some key) : Moves k (.feed text now) k
  | due {now : τ} {key : Int} {k' : Keyboard τ} (held : k.held = some key)
      (due : k.releaseAt ≤ now) (free : k'.held = none) : Moves k (.expire now) k'
  | early {now : τ} (early : k.held = none ∨ ¬ k.releaseAt ≤ now) : Moves k (.expire now) k
  | stopped {k' : Keyboard τ} (free : k'.held = none) : Moves k .stop k'

namespace Moves

variable {k k' : Keyboard τ} {i : Input τ}

theorem held_iff (h : Moves k i k') (hfree : k.held = none) {key : Int} :
    k'.held = some key ↔ Types k.keymap key i := by
  cases h with
  | pressed free typed held _ =>
      rw [held, Option.some.injEq]
      constructor
      · rintro rfl
        exact typed
      · exact fun ht => Option.some.inj (typed.symm.trans ht)
  | extended held | due held => cases held.symm.trans hfree
  | dropped other =>
      rw [hfree]
      exact ⟨nofun, fun ht => absurd hfree (other key ht).1⟩
  | early =>
      rw [hfree]
      exact ⟨nofun, False.elim⟩
  | stopped free =>
      rw [free]
      exact ⟨nofun, False.elim⟩

variable {key : Int} {text : Points} {now : τ}

theorem eq_of_not_typed (h : Moves k (.feed text now) k') (hheld : k.held = some key)
    (ht : ¬ Types k.keymap key (.feed text now)) : k' = k := by
  cases h with
  | pressed free => cases free.symm.trans hheld
  | extended held typed =>
      obtain rfl := Option.some.inj (held.symm.trans hheld)
      exact absurd typed ht
  | dropped => rfl

theorem eq_of_typed (h : Moves k (.feed text now) k') (hheld : k.held = some key)
    (ht : Types k.keymap key (.feed text now)) :
    k' = { k with releaseAt := holdEnd k.hold now k.releaseAt } := by
  cases h with
  | pressed free => cases free.symm.trans hheld
  | extended => rfl
  | dropped other => exact absurd hheld (other key ht).2

theorem free_iff (h : Moves k i k') (hheld : k.held = some key) :
    k'.held = none ↔ i = .stop ∨ ∃ now, i = .expire now ∧ k.releaseAt ≤ now := by
  have hsome : k.held ≠ none := by simp [hheld]
  cases h with
  | pressed free => exact absurd free hsome
  | extended | dropped =>
      refine iff_of_false hsome ?_
      rintro (h | ⟨_, h, _⟩) <;> cases h
  | due _ due free => exact iff_of_true free (.inr ⟨_, rfl, due⟩)
  | early early =>
      refine iff_of_false hsome ?_
      rintro (h | ⟨_, h, hdue⟩)
      · cases h
      · cases h
        exact early.elim hsome fun h => h hdue
  | stopped free => exact iff_of_true free (.inl rfl)

theorem held_or_free (h : Moves k i k') (hheld : k.held = some key) :
    k'.held = none ∨ k'.held = some key := by
  cases h with
  | pressed free => cases free.symm.trans hheld
  | extended | dropped | early => exact .inr hheld
  | due _ _ free | stopped free => exact .inl free

end Moves

end

/-! ## One input -/

variable [Timeline τ] [LE τ] [DecidableLE τ]

/-- What comes of one input, with how it ended. -/
def enter (k : Keyboard τ) : Input τ → Result τ Unit
  | .feed text now => k.feed text now
  | .expire now => k.expire now
  | .stop => k.stop

/-- The keyboard after so many inputs, be they successful or not. -/
def course (k : Keyboard τ) (inputs : Nat → Input τ) : Nat → Keyboard τ
  | 0 => k
  | n + 1 => ((course k inputs n).enter (inputs n)).1

/-- What stays the same about a keyboard. -/
structure SameMake (k k' : Keyboard τ) : Prop where
  keymap : k'.keymap = k.keymap
  hold : k'.hold = k.hold

theorem Coupled.enter {k : Keyboard τ} (hk : k.Coupled) (i : Input τ) :
    Moves k i (k.enter i).1 ∧ (k.enter i).1.Coupled ∧ SameMake k (k.enter i).1 := by
  cases i with
  | feed text now =>
      rw [Keyboard.enter]
      cases hm : k.keymap.lookup (Text.lower text) with
      | none =>
          rw [feed_of_not_mapped hm]
          refine ⟨.dropped fun key ht => ?_, hk, rfl, rfl⟩
          cases hm.symm.trans ht
      | some key =>
          cases hheld : k.held with
          | none =>
              obtain ⟨history, heq⟩ := hk.feed_of_free hm hheld now
              rw [heq, extend_fst]
              refine ⟨.pressed hheld hm rfl rfl, ⟨rfl, hk.quiet, hk.keys, ?_⟩, rfl, rfl⟩
              rintro _ ⟨⟩
              exact hk.keys _ _ hm
          | some key' =>
              by_cases h : key' = key
              · subst h
                rw [feed_of_same hm hheld, extend_fst]
                exact ⟨.extended hheld hm, ⟨hk.agree, hk.quiet, hk.keys, hk.held⟩, rfl, rfl⟩
              · rw [feed_of_other hm hheld h]
                refine ⟨.dropped fun key'' ht => ?_, hk, rfl, rfl⟩
                obtain rfl : key = key'' := Option.some.inj (hm.symm.trans ht)
                rw [hheld]
                exact ⟨Option.some_ne_none _, fun he => h (Option.some.inj he)⟩
  | expire now =>
      rw [Keyboard.enter]
      cases hheld : k.held with
      | none =>
          rw [expire_of_free hheld]
          exact ⟨.early (.inl hheld), hk, rfl, rfl⟩
      | some key =>
          by_cases h : k.releaseAt ≤ now
          · obtain ⟨history, heq⟩ := hk.expire_of_due hheld h
            rw [heq]
            exact ⟨.due hheld h rfl, ⟨rfl, hk.quiet, hk.keys, nofun⟩, rfl, rfl⟩
          · rw [expire_of_early h]
            exact ⟨.early (.inr h), hk, rfl, rfl⟩
  | stop =>
      obtain ⟨history, heq⟩ := hk.stop_eq
      rw [Keyboard.enter, heq]
      exact ⟨.stopped rfl, ⟨rfl, hk.quiet, hk.keys, nofun⟩, rfl, rfl⟩

/-! ## Any number of inputs -/

theorem Coupled.course {k : Keyboard τ} (hk : k.Coupled) (inputs : Nat → Input τ) (n : Nat) :
    (k.course inputs n).Coupled ∧ SameMake k (k.course inputs n) := by
  induction n with
  | zero => exact ⟨hk, rfl, rfl⟩
  | succ n ih =>
      obtain ⟨-, hcoupled, hmake⟩ := ih.1.enter (inputs n)
      exact ⟨hcoupled, hmake.keymap.trans ih.2.keymap, hmake.hold.trans ih.2.hold⟩

theorem Coupled.moves {k : Keyboard τ} (hk : k.Coupled) (inputs : Nat → Input τ) (n : Nat) :
    Moves (k.course inputs n) (inputs n) (k.course inputs (n + 1)) :=
  ((hk.course inputs n).1.enter (inputs n)).1

/-- Input `j`, at time `t`, was the latest keystroke for a key that has been held since. -/
structure Latest (k : Keyboard τ) (inputs : Nat → Input τ) (key : Int) (n j : Nat) (t : τ) :
    Prop where
  before : j < n
  keystroke : ∃ text, inputs j = .feed text t
  typed : Types k.keymap key (inputs j)
  held : ∀ i, j < i → i ≤ n → (k.course inputs i).held = some key
  last : ∀ i, j < i → i < n → ¬ Types k.keymap key (inputs i)

/-- A keystroke is the latest one when it has just been made. -/
theorem Latest.now {k : Keyboard τ} {inputs : Nat → Input τ} {key : Int} {n : Nat} {t : τ}
    {text : Points} (hi : inputs n = .feed text t) (ht : Types k.keymap key (inputs n))
    (hheld : (k.course inputs (n + 1)).held = some key) : Latest k inputs key (n + 1) n t where
  before := Nat.lt_succ_self n
  keystroke := ⟨text, hi⟩
  typed := ht
  held i hj hn := by
    obtain rfl : i = n + 1 := by omega
    exact hheld
  last i hj hn := by omega

/-- It still is after an input that is none for its key. -/
theorem Latest.succ {k : Keyboard τ} {inputs : Nat → Input τ} {key : Int} {n j : Nat} {t : τ}
    (h : Latest k inputs key n j t) (hi : ¬ Types k.keymap key (inputs n))
    (hheld : (k.course inputs (n + 1)).held = some key) :
    Latest k inputs key (n + 1) j t where
  before := Nat.lt_succ_of_lt h.before
  keystroke := h.keystroke
  typed := h.typed
  held i hj hn := by
    rcases Nat.lt_or_eq_of_le hn with hlt | rfl
    · exact h.held i hj (Nat.le_of_lt_succ hlt)
    · exact hheld
  last i hj hn := by
    rcases Nat.lt_or_eq_of_le (Nat.le_of_lt_succ hn) with hlt | rfl
    · exact h.last i hj hlt
    · exact hi

theorem Coupled.exists_latest {k : Keyboard τ} (hk : k.Coupled) (hfree : k.held = none)
    (inputs : Nat → Input τ) {n : Nat} {key : Int}
    (hheld : (k.course inputs n).held = some key) :
    ∃ j t, Latest k inputs key n j t ∧ (k.course inputs n).releaseAt =
      holdEnd k.hold t (k.course inputs j).releaseAt := by
  induction n with
  | zero => cases hheld.symm.trans hfree
  | succ n ih =>
      obtain ⟨-, hmake⟩ := hk.course inputs n
      have hmoves := hk.moves inputs n
      generalize hk' : k.course inputs (n + 1) = k', hi : inputs n = i at hmoves
      have hheld' : k'.held = some key := hk' ▸ hheld
      cases hmoves with
      | @pressed text now key' _ free typed held until_ =>
          obtain rfl : key' = key := Option.some.inj (held.symm.trans hheld')
          rw [hmake.keymap] at typed
          rw [hmake.hold] at until_
          exact ⟨n, now, .now hi (hi ▸ typed) hheld, until_⟩
      | @extended text now key' held typed =>
          obtain rfl : key' = key := Option.some.inj (held.symm.trans hheld')
          rw [hmake.keymap] at typed
          refine ⟨n, now, .now hi (hi ▸ typed) hheld, ?_⟩
          rw [hmake.hold]
      | dropped other =>
          obtain ⟨j, t, hlatest, hend⟩ := ih hheld'
          refine ⟨j, t, hlatest.succ (fun ht => ?_) hheld, hend⟩
          rw [hi, ← hmake.keymap] at ht
          exact (other key ht).2 hheld'
      | early =>
          obtain ⟨j, t, hlatest, hend⟩ := ih hheld'
          exact ⟨j, t, hlatest.succ (fun ht => by rw [hi] at ht; exact ht) hheld, hend⟩
      | due _ _ free | stopped free => cases hheld'.symm.trans free

/-! ## What the keyboard does -/

/-- A keyboard and its keypad agree after any inputs. A key is held from a keystroke for it
when none is held. As long as it is, other keystrokes do nothing at all, and one for the key
does nothing but move the end of the hold. The key is let go by a stop, and at an expiry
that is not before the end of the hold of the latest keystroke for it. Nothing else lets it
go, or holds another one in its place. -/
structure Tracks (k : Keyboard τ) (inputs : Nat → Input τ) : Prop where
  agree : ∀ n, (k.course inputs n).keypad.held = (k.course inputs n).held
  pressed : ∀ n key, (k.course inputs n).held = none →
    ((k.course inputs (n + 1)).held = some key ↔ Types k.keymap key (inputs n))
  dropped : ∀ n key text now, (k.course inputs n).held = some key →
    inputs n = .feed text now → ¬ Types k.keymap key (inputs n) →
    k.course inputs (n + 1) = k.course inputs n
  extended : ∀ n key text now, (k.course inputs n).held = some key →
    inputs n = .feed text now → Types k.keymap key (inputs n) →
    k.course inputs (n + 1) = { k.course inputs n with
      releaseAt := holdEnd k.hold now (k.course inputs n).releaseAt }
  released : ∀ n key, (k.course inputs n).held = some key →
    ∃ j t, Latest k inputs key n j t ∧
      ((k.course inputs (n + 1)).held = none ↔ inputs n = .stop ∨
        ∃ now, inputs n = .expire now ∧ holdEnd k.hold t (k.course inputs j).releaseAt ≤ now)
  kept : ∀ n key, (k.course inputs n).held = some key →
    (k.course inputs (n + 1)).held = none ∨ (k.course inputs (n + 1)).held = some key

theorem tracks_keypad {keymap : List (Points × Int)} (h : ∀ e ∈ keymap, Keypad.IsKey e.2)
    (hold start : τ) {pad : Keypad} (hfree : pad.held = none) (hquiet : pad.pending = 0)
    (inputs : Nat → Input τ) :
    Tracks { new keymap hold start with keypad := pad } inputs := by
  have hk := coupled_new h hold start hfree hquiet
  generalize hnew : ({ new keymap hold start with keypad := pad } : Keyboard τ) = k at hk ⊢
  have hstart : k.held = none := by
    rw [← hnew]
    rfl
  constructor
  case agree => exact fun n => (hk.course inputs n).1.agree
  case pressed =>
    intro n key hn
    rw [(hk.moves inputs n).held_iff hn, (hk.course inputs n).2.keymap]
  case dropped =>
    intro n key text now hn hi ht
    have hmoves := hk.moves inputs n
    rw [hi] at hmoves ht
    rw [← (hk.course inputs n).2.keymap] at ht
    exact hmoves.eq_of_not_typed hn ht
  case extended =>
    intro n key text now hn hi ht
    have hmoves := hk.moves inputs n
    rw [hi] at hmoves ht
    rw [← (hk.course inputs n).2.keymap] at ht
    rw [hmoves.eq_of_typed hn ht, ← (hk.course inputs n).2.hold]
  case released =>
    intro n key hn
    obtain ⟨j, t, hlatest, hend⟩ := hk.exists_latest hstart inputs hn
    refine ⟨j, t, hlatest, ?_⟩
    rw [(hk.moves inputs n).free_iff hn, hend]
  case kept => exact fun n key hn => (hk.moves inputs n).held_or_free hn

/-- A key that is typed at 0 and again at 4, with another letter in between, is held at 13 and
let go at 14. -/
theorem tracks_keypad_repeated :
    ∃ (k : Keyboard Number) (inputs : Nat → Input Number),
      k = { new [("1", 1)] (.whole 10) (.whole 0) with keypad := {} } ∧
      inputs = (fun n => [.feed "1" (.whole 0), .feed "q" (.whole 3), .feed "1" (.whole 4),
        .expire (.whole 13)].getD n (.expire (.whole 14))) ∧
      (∀ e ∈ [(Text.points "1", (1 : Int))], Keypad.IsKey e.2) ∧ ({} : Keypad).held = none ∧
      ({} : Keypad).pending = 0 ∧ Tracks k inputs ∧
      (k.course inputs 4).held = some 1 ∧ (k.course inputs 5).held = none :=
  have hkeys : ∀ e ∈ [(Text.points "1", (1 : Int))], Keypad.IsKey e.2 := by decide
  ⟨_, _, rfl, rfl, hkeys, rfl, rfl,
    tracks_keypad hkeys (Number.whole 10) (Number.whole 0) rfl rfl _, by decide +kernel,
    by decide +kernel⟩

/-- A whole number that is too great for a double cannot be added to one. -/
theorem later_eq_error {n : Int} (h : Numeral.Binary64.ofInt? n = none) (x : Float) :
    Timeline.later (Number.real x) (.whole n) = .error .integerTooLarge := by
  have hwhole : (Number.whole n).toReal = .error .integerTooLarge := by
    rw [Number.toReal, h]
  show Number.sum (.real x) (.whole n) = _
  rw [Number.sum, hwhole]
  · rfl
  · exact fun _ _ h => nomatch h

/-- A keystroke whose hold ends too late for there to be a time. The key is held, and it is let
go at the very moment at which it was typed. -/
theorem released_early :
    ∃ (k : Keyboard Number) (inputs : Nat → Input Number),
      k = new [("1", 1)] (.whole (10 ^ 309)) (.real 0.0) ∧
      inputs 0 = .feed "1" (.real 0.5) ∧ inputs 1 = .expire (.real 0.5) ∧
      (k.course inputs 1).held = some 1 ∧ (k.course inputs 2).held = none ∧
      (∀ t, Timeline.later (.real 0.5) k.hold ≠ .ok t) ∧ ¬ k.hold ≤ Number.real 0.5 := by
  refine ⟨_, fun n => [.feed "1" (.real 0.5)].getD n (.expire (.real 0.5)), rfl, rfl, rfl,
    by decide +kernel, by decide +kernel, fun t ht => ?_, by decide +kernel⟩
  have hnone : Numeral.Binary64.ofInt? (10 ^ 309) = none := by decide +kernel
  cases (later_eq_error hnone 0.5).symm.trans ht

end ChipEight.Keyboard
