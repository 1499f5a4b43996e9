import ChipEight.Keypad
import Mathlib.Algebra.Ring.Nat

/-!
# Calls from inside calls

A call is carried out with a bound on how deep calls nest, and the bound is bookkeeping.
What is spent is a reaction: a listener that calls has lost one, and whatever the call
brings along was counted with it. So the reactions at the keypad and in the call, taken
together, go down by one with every level, and `perform` starts from that number.

The useful form of this is `perform_eq`: a call is carried out by carrying out the calls
from inside it in the very same way. Nothing is said about keys here; a call for what is no
key ends early, and everything below holds of it as well.
-/

namespace ChipEight.Keypad

/-! ## What is left to react -/

@[simp] theorem pending_record (k : Keypad) (e : Event) : (k.record e).pending = k.pending := rfl

theorem pending_eq_sum (k : Keypad) :
    k.pending = (k.listeners.toList.map fun l => planWeight l.plan).sum := by
  rw [pending, List.sum, List.foldr_map]

theorem pending_listen (k : Keypad) (l : Listener) :
    ({ k with listeners := k.listeners.push l } : Keypad).pending =
      k.pending + planWeight l.plan := by
  simp [pending_eq_sum]

theorem planWeight_takeReaction {down : Bool} {plan left : List Reaction} {calls : List Call}
    (h : takeReaction down plan = (some calls, left)) :
    planWeight left + callsWeight calls + 1 = planWeight plan := by
  induction plan generalizing left with
  | nil => cases h
  | cons r rest ih =>
      obtain ⟨down', calls'⟩ := r
      rw [takeReaction] at h
      split at h
      · cases h
        rw [planWeight, Reaction.weight, Reaction.calls]
        omega
      · cases hr : takeReaction down rest with
        | mk found left' =>
            rw [hr] at h
            cases h
            have := ih hr
            rw [planWeight, planWeight]
            omega

/-- A listener's place with another plan in it. -/
theorem pending_setPlan {k : Keypad} {place : Nat} {l : Listener}
    (h : k.listeners[place]? = some l) (plan : List Reaction) :
    ({ k with listeners := k.listeners.setIfInBounds place { l with plan := plan } } :
        Keypad).pending + planWeight l.plan = k.pending + planWeight plan := by
  rw [Array.getElem?_eq_some_iff] at h
  obtain ⟨hlt, hl⟩ := h
  have hlt' : place < k.listeners.toList.length := hlt
  have hsplit : k.listeners.toList = k.listeners.toList.take place ++ l ::
      k.listeners.toList.drop (place + 1) := by
    rw [← hl, ← Array.getElem_toList hlt, ← List.drop_eq_getElem_cons hlt',
      List.take_append_drop]
  have hset : (k.listeners.setIfInBounds place { l with plan := plan }).toList =
      k.listeners.toList.take place ++ { l with plan := plan } ::
        k.listeners.toList.drop (place + 1) := by
    rw [Array.toList_setIfInBounds, List.set_eq_take_append_cons_drop, if_pos hlt']
  have hbefore : k.pending = ((k.listeners.toList.take place ++ l ::
      k.listeners.toList.drop (place + 1)).map fun l => planWeight l.plan).sum := by
    rw [← hsplit, pending_eq_sum]
  rw [pending_eq_sum, hset, hbefore]
  simp only [List.map_append, List.map_cons, List.sum_append, List.sum_cons]
  omega

/-! ## Nothing adds to it -/

/-- No call leaves more reactions than it found and brought. -/
def Frugal (perform : Performer) : Prop :=
  ∀ c k, (perform c k).1.pending ≤ k.pending + c.weight

theorem Frugal.of_eq {perform : Performer} (hp : Frugal perform) {c : Call} {k k' : Keypad}
    {a : Answer} (h : perform c k = (k', a)) : k'.pending ≤ k.pending + c.weight := by
  have hle := hp c k
  rw [h] at hle
  exact hle

section

variable {perform : Performer} (hp : Frugal perform)
include hp

theorem pending_performAll_le (calls : List Call) (k : Keypad) :
    (performAll perform calls k).1.pending ≤ k.pending + callsWeight calls := by
  induction calls generalizing k with
  | nil => exact Nat.le_add_right _ _
  | cons c rest ih =>
      rw [performAll, callsWeight]
      split
      · next k' _ heq =>
          have hc := hp.of_eq heq
          have := ih k'
          omega
      · next k' _ heq =>
          have hc := hp.of_eq heq
          exact Nat.le_trans hc (by omega)

theorem pending_tell_le (place : Nat) (key : Int) (down : Bool) (k : Keypad) :
    (tell perform place key down k).1.pending ≤ k.pending := by
  rw [tell]
  split
  · exact Nat.le_refl _
  · next l hl =>
      split
      · exact Nat.le_refl _
      · next calls left htake =>
          have hspent := pending_setPlan (k := k.record (.heard place key down)) hl left
          have hweight := planWeight_takeReaction htake
          refine Nat.le_trans (pending_performAll_le hp calls _) ?_
          rw [pending_record] at hspent
          omega

theorem pending_tellAll_le (key : Int) (down : Bool) (places : List Nat) (k : Keypad) :
    (tellAll perform key down places k).1.pending ≤ k.pending := by
  induction places generalizing k with
  | nil => exact Nat.le_refl _
  | cons place rest ih =>
      have ht := pending_tell_le hp place key down k
      rw [tellAll]
      split
      · next k' _ heq =>
          rw [heq] at ht
          exact Nat.le_trans (ih k') ht
      · next k' _ heq =>
          rw [heq] at ht
          exact ht

theorem pending_change_le (held : Option Int) (key : Int) (down : Bool) (k : Keypad) :
    (change perform held key down k).1.pending ≤ k.pending :=
  pending_tellAll_le hp key down _ _

theorem frugal_performWith : Frugal (performWith perform) := by
  have hanswer : ∀ answer held key down (k : Keypad),
      (answering answer (change perform held key down k)).1.pending ≤ k.pending := by
    intro answer held key down k
    have hle := pending_change_le hp held key down k
    cases hr : change perform held key down k with
    | mk k' r =>
        rw [hr] at hle
        cases r <;> exact hle
  intro c k
  cases c with
  | press key =>
      rw [performWith, checked]
      split
      · split
        · exact Nat.le_refl _
        · exact hanswer _ _ _ _ k
      · exact Nat.le_refl _
  | release key =>
      rw [performWith, checked]
      split
      · split
        · exact hanswer _ _ _ _ k
        · exact Nat.le_refl _
      · exact Nat.le_refl _
  | releaseAll =>
      rw [performWith]
      split
      · exact Nat.le_refl _
      · exact hanswer _ _ _ _ k
  | listen name plan =>
      exact Nat.le_of_eq (pending_listen k ⟨name, plan⟩)

end

theorem frugal_idle : Frugal fun _ k => (k, .ok none) := fun _ _ => Nat.le_add_right _ _

theorem frugal_performWithin (depth : Nat) : Frugal (performWithin depth) := by
  induction depth with
  | zero => exact frugal_performWith frugal_idle
  | succ depth ih => exact frugal_performWith ih

/-! ## Any depth that suffices -/

section

variable {perform perform' : Performer} {n : Nat} (hp : Frugal perform)
  (hsame : ∀ c k, k.pending + c.weight < n → perform c k = perform' c k)
include hp hsame

theorem performAll_congr {calls : List Call} {k : Keypad}
    (h : k.pending + callsWeight calls < n) :
    performAll perform calls k = performAll perform' calls k := by
  induction calls generalizing k with
  | nil => rfl
  | cons c rest ih =>
      rw [callsWeight] at h
      rw [performAll, performAll, ← hsame c k (by omega)]
      split
      · next k' _ heq =>
          have hc := hp.of_eq heq
          exact ih (by omega)
      · rfl

/-- The reaction that is spent makes room for the calls it holds. -/
theorem tell_congr {k : Keypad} (h : k.pending ≤ n) (place : Nat) (key : Int) (down : Bool) :
    tell perform place key down k = tell perform' place key down k := by
  rw [tell, tell]
  split
  · rfl
  · next l hl =>
      dsimp only
      split
      · rfl
      · next calls left htake =>
          have hspent := pending_setPlan (k := k.record (.heard place key down)) hl left
          have hweight := planWeight_takeReaction htake
          rw [pending_record] at hspent
          exact performAll_congr hp hsame (by omega)

theorem tellAll_congr {k : Keypad} (h : k.pending ≤ n) (key : Int) (down : Bool)
    (places : List Nat) :
    tellAll perform key down places k = tellAll perform' key down places k := by
  induction places generalizing k with
  | nil => rfl
  | cons place rest ih =>
      have ht := pending_tell_le hp place key down k
      rw [tellAll, tellAll, ← tell_congr hp hsame h]
      split
      · next k' _ heq =>
          rw [heq] at ht
          exact ih (Nat.le_trans ht h)
      · rfl

theorem performWith_congr {c : Call} {k : Keypad} (h : k.pending + c.weight ≤ n) :
    performWith perform c k = performWith perform' c k := by
  have hchange : ∀ held key down,
      change perform held key down k = change perform' held key down k :=
    fun held key down => tellAll_congr hp hsame (k := ({ k with held := held } : Keypad).record
      (.changed key down)) (Nat.le_of_add_right_le h) key down _
  cases c with
  | press key => rw [performWith, performWith, hchange]
  | release key => rw [performWith, performWith, hchange]
  | releaseAll =>
      rw [performWith, performWith]
      split
      · rfl
      · rw [hchange]
  | listen name plan => rfl

end

/-- Two depths carry a call out alike if both are as great as the number of reactions that
there are. -/
theorem performWithin_congr {n m : Nat} {c : Call} {k : Keypad}
    (hn : k.pending + c.weight ≤ n) (hm : k.pending + c.weight ≤ m) :
    performWithin n c k = performWithin m c k := by
  induction n generalizing m c k with
  | zero =>
      -- No call is made from inside, so it does not matter how one would be carried out.
      cases m with
      | zero => rfl
      | succ m => exact performWith_congr frugal_idle (n := 0) (fun _ _ h => by omega) hn
  | succ n ih =>
      cases m with
      | zero =>
          exact performWith_congr (frugal_performWithin n) (n := 0) (fun _ _ h => by omega) hm
      | succ m =>
          exact performWith_congr (frugal_performWithin n) (fun c' k' h =>
            ih (by omega) (by omega)) (Nat.le_refl _)

theorem perform_eq_performWithin {n : Nat} {c : Call} {k : Keypad}
    (h : k.pending + c.weight ≤ n) : perform c k = performWithin n c k :=
  performWithin_congr (Nat.le_refl _) h

/-- Calls from inside a call are carried out like any other. -/
theorem perform_eq (c : Call) (k : Keypad) : perform c k = performWith perform c k := by
  rw [perform_eq_performWithin (Nat.le_succ _)]
  exact performWith_congr (frugal_performWithin _)
    (fun c' k' h => (perform_eq_performWithin (Nat.le_of_lt h)).symm) (Nat.le_refl _)

end ChipEight.Keypad
