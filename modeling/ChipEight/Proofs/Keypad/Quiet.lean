import ChipEight.Proofs.Keypad.Delivery

/-!
# A keypad at which nobody reacts

Where no listener has a reaction left, a call does to the keypad what it says and no more: the
held key changes, the history may, and the listeners stay as they are with what is left of their
plans, so that the next call meets such a keypad again.
-/

namespace ChipEight.Keypad

variable {k : Keypad} (hq : k.pending = 0)
include hq

theorem plan_eq_nil {place : Nat} {l : Listener} (h : k.listeners[place]? = some l) :
    l.plan = [] := by
  have hset := pending_setPlan h []
  rw [hq] at hset
  cases hplan : l.plan with
  | nil => rfl
  | cons r rest =>
      obtain ⟨down, calls⟩ := r
      rw [hplan, planWeight, planWeight, Reaction.weight] at hset
      omega

theorem tell_of_quiet (perform : Performer) (place : Nat) (key : Int) (down : Bool) :
    ∃ history, tell perform place key down k = ({ k with history := history }, .ok ()) := by
  rw [tell]
  split
  · exact ⟨k.history, rfl⟩
  · next l hl =>
      rw [plan_eq_nil hq hl]
      exact ⟨_, rfl⟩

theorem tellAll_of_quiet (perform : Performer) (key : Int) (down : Bool) (places : List Nat) :
    ∃ history, tellAll perform key down places k =
      ({ k with history := history }, .ok ()) := by
  induction places generalizing k with
  | nil => exact ⟨k.history, rfl⟩
  | cons place rest ih =>
      obtain ⟨history, htell⟩ := tell_of_quiet hq perform place key down
      obtain ⟨history', hrest⟩ := ih (k := { k with history := history }) hq
      refine ⟨history', ?_⟩
      rw [tellAll, htell]
      exact hrest

theorem change_of_quiet (perform : Performer) (held : Option Int) (key : Int) (down : Bool) :
    ∃ history, change perform held key down k =
      ({ k with held := held, history := history }, .ok ()) :=
  tellAll_of_quiet (k := ({ k with held := held } : Keypad).record (.changed key down)) hq
    perform key down _

theorem perform_press_of_quiet {key : Int} (hkey : IsKey key) (hfree : k.held = none) :
    ∃ history, perform (.press key) k =
      ({ k with held := some key, history := history }, .ok (some true)) := by
  obtain ⟨history, heq⟩ := change_of_quiet hq perform (some key) key true
  refine ⟨history, ?_⟩
  rw [perform_eq, performWith, checked_of_isKey hkey, hfree, heq]
  rfl

theorem perform_release_of_quiet {key : Int} (hkey : IsKey key) (hheld : k.held = some key) :
    ∃ history, perform (.release key) k =
      ({ k with held := none, history := history }, .ok (some true)) := by
  obtain ⟨history, heq⟩ := change_of_quiet hq perform none key false
  refine ⟨history, ?_⟩
  rw [perform_eq, performWith, checked_of_isKey hkey, if_pos hheld, heq]
  rfl

theorem perform_releaseAll_of_quiet :
    ∃ history, perform .releaseAll k =
      ({ k with held := none, history := history }, .ok none) := by
  rw [perform_eq, performWith]
  split
  · next hfree =>
      rw [← hfree]
      exact ⟨k.history, rfl⟩
  · next key _ =>
      obtain ⟨history, heq⟩ := change_of_quiet hq perform none key false
      exact ⟨history, by rw [heq]; rfl⟩

/-! ## What is changed -/

theorem changes_tell_of_quiet (perform : Performer) (place : Nat) (key : Int) (down : Bool) :
    changes (tell perform place key down k).1.history.toList = changes k.history.toList := by
  rw [tell]
  split
  · rfl
  · next l hl =>
      rw [plan_eq_nil hq hl]
      simp [takeReaction, record, changes]

theorem changes_tellAll_of_quiet (perform : Performer) (key : Int) (down : Bool)
    (places : List Nat) :
    changes (tellAll perform key down places k).1.history.toList = changes k.history.toList := by
  induction places generalizing k with
  | nil => rfl
  | cons place rest ih =>
      have htold := changes_tell_of_quiet hq perform place key down
      obtain ⟨history, htell⟩ := tell_of_quiet hq perform place key down
      rw [htell] at htold
      rw [tellAll, htell]
      exact (ih (k := { k with history := history }) hq).trans htold

/-- A press is the only change, since those who are told of it do nothing. -/
theorem changes_press_of_quiet {key : Int} (hkey : IsKey key) (hfree : k.held = none) :
    changes (press k key).1.history.toList = changes k.history.toList ++ [(key, true)] := by
  have htold := changes_tellAll_of_quiet
    (k := ({ k with held := some key } : Keypad).record (.changed key true)) hq perform key true
    (List.range k.listeners.size)
  rw [press_eq hkey hfree, answering_fst]
  refine htold.trans ?_
  rw [record, Array.toList_push, changes, List.filterMap_append]
  rfl

end ChipEight.Keypad
