import ChipEight.Keypad
import Mathlib.Data.List.Perm.Basic

/-!
# Rounds of telling

A change of the held key is told to the listeners one after the other, and one of them may
make further changes before the next one is told. So rounds of telling lie inside one
another, and a history is a plain list. Reading it from the front, with the rounds that have
not ended kept on a stack, one knows for each event whether it has its place there:
`Telling.next?`. A change opens a round for everybody who is registered. Whoever is told is
the next one of the latest round that has not ended, and it is that round's change. Nothing
else happens between a change and its first listener's being told.

Such a history leaves nobody out and tells nobody twice, whatever the changes are and
however often the same one is made. Two consequences do not mention rounds. What is heard
and what is still owed add up to what is due (`heard_owed`); and the first listener, who is
told before anything else can happen, hears of the changes in their order (`first_heard_owed`).
-/

namespace ChipEight.Keypad

/-- The changes among some events, in the order in which they were made. -/
def changes (es : List Event) : List (Int × Bool) :=
  es.filterMap fun e =>
    match e with
    | .changed key down => some (key, down)
    | _ => none

/-- What the listener at a place was told, in the order in which it was told. -/
def heardBy (place : Nat) (es : List Event) : List (Int × Bool) :=
  es.filterMap fun e =>
    match e with
    | .heard p key down => if p = place then some (key, down) else none
    | _ => none

/-- The events after a place was taken. -/
def since (place : Nat) : List Event → List Event
  | [] => []
  | .registered p :: es => if p = place then es else since place es
  | .changed _ _ :: es => since place es
  | .heard _ _ _ :: es => since place es

/-- A change, and the places of those that have yet to be told of it. -/
structure Round where
  key : Int
  down : Bool
  untold : List Nat

/-- The round, unless it has ended. -/
def Round.ongoing (r : Round) : List Round := if r.untold = [] then [] else [r]

/-- Each of some rounds has told the first listener. -/
def Begun (rounds : List Round) : Prop := ∀ r ∈ rounds, 0 ∉ r.untold

instance (rounds : List Round) : Decidable (Begun rounds) :=
  inferInstanceAs (Decidable (∀ _ ∈ _, _))

/-- How far the telling has come: the rounds that have not ended, the latest first, and how
many listeners there are. -/
structure Telling where
  rounds : List Round := []
  listeners : Nat := 0

namespace Telling

/-- How far it has come after one more event, if the event has its place here. -/
def next? (t : Telling) : Event → Option Telling
  | .changed key down =>
      if Begun t.rounds then
        some { t with
          rounds := (Round.mk key down (List.range t.listeners)).ongoing ++ t.rounds }
      else none
  | .registered place =>
      if Begun t.rounds ∧ place = t.listeners then some { t with listeners := place + 1 } else none
  | .heard place key down =>
      match t.rounds with
      | ⟨key', down', p :: rest⟩ :: rounds =>
          if p = place ∧ key' = key ∧ down' = down then
            some { t with rounds := (Round.mk key down rest).ongoing ++ rounds }
          else none
      | _ => none

/-- How far it has come after some events, if all of them have their place. -/
def after? (t : Telling) (es : List Event) : Option Telling := es.foldlM next? t

theorem after?_cons (t : Telling) (e : Event) (es : List Event) :
    t.after? (e :: es) = (t.next? e).bind fun t' => t'.after? es := rfl

theorem after?_append (t : Telling) (es more : List Event) :
    t.after? (es ++ more) = (t.after? es).bind fun t' => t'.after? more :=
  List.foldlM_append

theorem after?_cons_eq_some {t t' : Telling} {e : Event} {es : List Event} :
    t.after? (e :: es) = some t' ↔ ∃ u, t.next? e = some u ∧ u.after? es = some t' := by
  rw [after?_cons, Option.bind_eq_some_iff]

theorem next?_changed {t t' : Telling} {key : Int} {down : Bool} :
    t.next? (.changed key down) = some t' ↔ Begun t.rounds ∧ t' = { t with
      rounds := (Round.mk key down (List.range t.listeners)).ongoing ++ t.rounds } := by
  rw [next?, Option.ite_none_right_eq_some, Option.some.injEq, eq_comm]

theorem next?_registered {t t' : Telling} {place : Nat} :
    t.next? (.registered place) = some t' ↔ Begun t.rounds ∧ place = t.listeners ∧
      t' = { t with listeners := place + 1 } := by
  rw [next?, Option.ite_none_right_eq_some, Option.some.injEq, and_assoc,
    eq_comm (a := Telling.mk _ _)]

theorem next?_heard {t t' : Telling} {place : Nat} {key : Int} {down : Bool} :
    t.next? (.heard place key down) = some t' ↔ ∃ rest rounds,
      t.rounds = ⟨key, down, place :: rest⟩ :: rounds ∧
      t' = { t with rounds := (Round.mk key down rest).ongoing ++ rounds } := by
  rw [next?]
  constructor
  · intro h
    split at h
    · next key' down' p rest rounds hr =>
        simp only [Option.ite_none_right_eq_some, Option.some.injEq] at h
        obtain ⟨⟨rfl, rfl, rfl⟩, rfl⟩ := h
        exact ⟨rest, rounds, hr, rfl⟩
    · cases h
  · rintro ⟨rest, rounds, hr, rfl⟩
    simp [hr]

theorem listeners_le_of_next? {t t' : Telling} {e : Event} (h : t.next? e = some t') :
    t.listeners ≤ t'.listeners := by
  cases e with
  | changed key down =>
      obtain ⟨-, rfl⟩ := next?_changed.1 h
      exact Nat.le_refl _
  | registered place =>
      obtain ⟨-, rfl, rfl⟩ := next?_registered.1 h
      exact Nat.le_succ _
  | heard place key down =>
      obtain ⟨_, _, -, rfl⟩ := next?_heard.1 h
      exact Nat.le_refl _

theorem listeners_le_of_after? {t t' : Telling} {es : List Event} (h : t.after? es = some t') :
    t.listeners ≤ t'.listeners := by
  induction es generalizing t with
  | nil =>
      cases h
      exact Nat.le_refl _
  | cons e es ih =>
      obtain ⟨u, hu, h⟩ := after?_cons_eq_some.1 h
      exact Nat.le_trans (listeners_le_of_next? hu) (ih h)

/-! ## What is owed -/

/-- What a listener has yet to be told in the rounds that have not ended. -/
def owed (t : Telling) (place : Nat) : List (Int × Bool) :=
  t.rounds.flatMap fun r => (r.untold.filter (· = place)).map fun _ => (r.key, r.down)

/-- What a listener is to be told of some events: of the changes among them, or, if it is
not registered yet, of those after it is. -/
def due (t : Telling) (place : Nat) (es : List Event) : List (Int × Bool) :=
  if place < t.listeners then changes es else changes (since place es)

theorem owed_ongoing (t : Telling) (r : Round) (rounds : List Round) (place : Nat) :
    ({ t with rounds := r.ongoing ++ rounds } : Telling).owed place =
      (r.untold.filter (· = place)).map (fun _ => (r.key, r.down)) ++
        ({ t with rounds := rounds } : Telling).owed place := by
  rw [Round.ongoing]
  split
  · next h => simp [h, owed]
  · simp [owed]

theorem filter_range_eq (n place : Nat) :
    (List.range n).filter (· = place) = if place < n then [place] else [] := by
  induction n with
  | zero => rfl
  | succ n ih =>
      rw [List.range_succ, List.filter_append, ih, List.filter_singleton]
      rcases Nat.lt_trichotomy place n with h | rfl | h
      · simp [h, Nat.lt_succ_of_lt h, Nat.ne_of_gt h]
      · simp
      · simp [Nat.not_lt_of_gt h, Nat.ne_of_lt h, Nat.not_lt.2 h]

/-- A change adds to what is owed to everybody who is registered. -/
theorem owed_changed {t t' : Telling} {key : Int} {down : Bool}
    (h : t.next? (.changed key down) = some t') (place : Nat) :
    t'.owed place = (if place < t.listeners then [(key, down)] else []) ++ t.owed place := by
  obtain ⟨-, rfl⟩ := next?_changed.1 h
  rw [owed_ongoing, filter_range_eq]
  split <;> rfl

/-- To be told takes away from what is owed. -/
theorem owed_heard {t t' : Telling} {p : Nat} {key : Int} {down : Bool}
    (h : t.next? (.heard p key down) = some t') (place : Nat) :
    t.owed place = (if p = place then [(key, down)] else []) ++ t'.owed place := by
  obtain ⟨rest, rounds, hr, rfl⟩ := next?_heard.1 h
  rw [owed_ongoing, owed, hr, List.flatMap_cons, List.filter_cons]
  split <;> simp_all [owed]

theorem due_changed {t t' : Telling} {key : Int} {down : Bool}
    (h : t.next? (.changed key down) = some t') (place : Nat) (es : List Event) :
    t.due place (.changed key down :: es) =
      (if place < t.listeners then [(key, down)] else []) ++ t'.due place es := by
  obtain ⟨-, rfl⟩ := next?_changed.1 h
  rw [due, due]
  split <;> rfl

theorem due_heard {t t' : Telling} {p : Nat} {key : Int} {down : Bool}
    (h : t.next? (.heard p key down) = some t') (place : Nat) (es : List Event) :
    t.due place (.heard p key down :: es) = t'.due place es := by
  obtain ⟨_, _, -, rfl⟩ := next?_heard.1 h
  rfl

theorem due_registered {t t' : Telling} {p : Nat} (h : t.next? (.registered p) = some t')
    (place : Nat) (es : List Event) :
    t.due place (.registered p :: es) = t'.due place es := by
  obtain ⟨-, rfl, rfl⟩ := next?_registered.1 h
  rw [due, due, since]
  rcases Nat.lt_trichotomy place t.listeners with hlt | rfl | hgt
  · simp [hlt, Nat.lt_succ_of_lt hlt, changes]
  · simp
  · simp [Nat.not_lt_of_gt hgt, Nat.ne_of_lt hgt, Nat.not_lt.2 hgt]

theorem heardBy_heard (place p : Nat) (key : Int) (down : Bool) (es : List Event) :
    heardBy place (.heard p key down :: es) =
      (if p = place then [(key, down)] else []) ++ heardBy place es := by
  rw [heardBy, List.filterMap_cons]
  split <;> simp_all [heardBy]

/-- Nothing is owed to the first listener when a change is made. -/
theorem owed_zero_of_begun {t : Telling} (h : Begun t.rounds) : t.owed 0 = [] := by
  rw [owed, List.flatMap_eq_nil_iff]
  intro r hr
  rw [List.map_eq_nil_iff, List.filter_eq_nil_iff]
  rintro p hp heq
  obtain rfl : p = 0 := by simpa using heq
  exact h r hr hp

/-- What a listener was told, with what it is still owed, is what it was owed before and what
has become due, in some order. -/
theorem heard_owed {t t' : Telling} {es : List Event} (h : t.after? es = some t') (place : Nat) :
    (heardBy place es ++ t'.owed place).Perm (t.owed place ++ t.due place es) := by
  induction es generalizing t with
  | nil =>
      cases h
      simp [heardBy, due, changes, since]
  | cons e es ih =>
      obtain ⟨u, hu, h⟩ := after?_cons_eq_some.1 h
      have ih := ih h
      cases e with
      | changed key down =>
          rw [owed_changed hu] at ih
          rw [due_changed hu, ← List.append_assoc]
          exact ih.trans (List.perm_append_comm.append_right _)
      | registered p =>
          rw [due_registered hu]
          obtain ⟨-, -, rfl⟩ := next?_registered.1 hu
          exact ih
      | heard p key down =>
          rw [heardBy_heard, due_heard hu, owed_heard hu, List.append_assoc, List.append_assoc]
          exact ih.append_left _

/-- A listener to whom nothing is owed whenever a change is made is told in the order in which
things have become due. -/
theorem heard_owed_in_order {t t' : Telling} {es : List Event} (h : t.after? es = some t')
    {place : Nat}
    (hnone : ∀ before key down more u, es = before ++ .changed key down :: more →
      t.after? before = some u → u.owed place = []) :
    heardBy place es ++ t'.owed place = t.owed place ++ t.due place es := by
  induction es generalizing t with
  | nil =>
      cases h
      simp [heardBy, due, changes, since]
  | cons e es ih =>
      obtain ⟨u, hu, h⟩ := after?_cons_eq_some.1 h
      have ih := ih h fun before key down more v hsplit hv =>
        hnone (e :: before) key down more v (by rw [hsplit, List.cons_append])
          (after?_cons_eq_some.2 ⟨u, hu, hv⟩)
      cases e with
      | changed key down =>
          have hnow : t.owed place = [] := hnone [] key down es t rfl rfl
          rw [owed_changed hu, hnow, List.append_nil] at ih
          rw [due_changed hu, hnow, List.nil_append]
          exact ih
      | registered p =>
          rw [due_registered hu]
          obtain ⟨-, -, rfl⟩ := next?_registered.1 hu
          exact ih
      | heard p key down =>
          rw [heardBy_heard, due_heard hu, owed_heard hu, List.append_assoc, List.append_assoc,
            ih]

/-- The first listener is told in the order in which things have become due. -/
theorem first_heard_owed {t t' : Telling} {es : List Event} (h : t.after? es = some t') :
    heardBy 0 es ++ t'.owed 0 = t.owed 0 ++ t.due 0 es := by
  refine heard_owed_in_order h fun before key down more u hsplit hu => ?_
  rw [hsplit, after?_append, hu, Option.bind_some] at h
  obtain ⟨v, hv, -⟩ := after?_cons_eq_some.1 h
  exact owed_zero_of_begun (next?_changed.1 hv).1

/-- Nothing is due to a place that has not been taken. -/
theorem due_of_le {t t' : Telling} {es : List Event} (h : t.after? es = some t') {place : Nat}
    (hp : t'.listeners ≤ place) : t.due place es = [] := by
  induction es generalizing t with
  | nil => simp [due, changes, since]
  | cons e es ih =>
      obtain ⟨u, hu, h'⟩ := after?_cons_eq_some.1 h
      have hlisteners := listeners_le_of_after? h
      cases e with
      | changed key down =>
          rw [due_changed hu, if_neg (by omega), List.nil_append, ih h']
      | registered p => rw [due_registered hu, ih h']
      | heard p key down => rw [due_heard hu, ih h']

end Telling

end ChipEight.Keypad
