import ChipEight.Proofs.Keypad.Nesting
import ChipEight.Proofs.Keypad.Rounds

/-!
# Changes reach every listener

What a listener does in the course of things is a list of what it did each time it was told
something, and a plan is such a list. So a theorem about all plans is one about all
listeners that call a keypad a limited number of times, whatever they make their calls
depend on.

The history of a call is a piece of the history of the keypad that leads from one held key
to another by changes that fit, and that has its place wherever a call has one
(`Course`). Both are kept by putting one piece behind another, so a call from inside
another call needs no more than the same fact about itself. The induction is on the depth
of calls.
-/

namespace ChipEight.Keypad

/-- One of the sixteen. -/
def IsKey (key : Int) : Prop := 0 ≤ key ∧ key < keyCount

instance (key : Int) : Decidable (IsKey key) := inferInstanceAs (Decidable (_ ∧ _))

theorem checked_of_isKey {key : Int} (h : IsKey key) (k : Keypad) (act : Keypad × Answer) :
    checked key k act = act := if_pos h

mutual

/-- Every key that a call names, itself or in what it brings with it, is one of the
sixteen. -/
def Call.Valid : Call → Prop
  | .press key => IsKey key
  | .release key => IsKey key
  | .releaseAll => True
  | .listen _ plan => PlanValid plan

/-- The same for the reactions of a plan. -/
def PlanValid : List Reaction → Prop
  | [] => True
  | r :: rest => Reaction.Valid r ∧ PlanValid rest

/-- The same for the calls of a reaction. -/
def Reaction.Valid : Reaction → Prop
  | .mk _ calls => CallsValid calls

/-- The same for calls. -/
def CallsValid : List Call → Prop
  | [] => True
  | c :: rest => Call.Valid c ∧ CallsValid rest

end

/-- No listener will ever name what is no key. -/
def Sound (k : Keypad) : Prop := ∀ l ∈ k.listeners, PlanValid l.plan

/-! ## Changes that fit -/

/-- From one held key, changes lead to another: a key goes down when none is held, and the
key that is held goes up. -/
def Leads : Option Int → List (Int × Bool) → Option Int → Prop
  | held, [], held' => held = held'
  | held, (key, true) :: cs, held' => held = none ∧ Leads (some key) cs held'
  | held, (key, false) :: cs, held' => held = some key ∧ Leads none cs held'

/-- Down and up in turn, beginning with down, and what comes up is what went down. -/
def Alternating : List (Int × Bool) → Prop
  | [] => True
  | [(_, down)] => down = true
  | (key, down) :: (key', down') :: cs =>
      down = true ∧ key' = key ∧ down' = false ∧ Alternating cs

/-- The key that is held after some changes. -/
def heldAfter (cs : List (Int × Bool)) : Option Int :=
  match cs.getLast? with
  | some (key, true) => some key
  | _ => none

theorem Leads.append {held held' held'' : Option Int} {cs cs' : List (Int × Bool)}
    (h : Leads held cs held') (h' : Leads held' cs' held'') : Leads held (cs ++ cs') held'' := by
  induction cs generalizing held with
  | nil => exact (show held = held' from h) ▸ h'
  | cons c cs ih =>
      obtain ⟨key, down⟩ := c
      cases down <;> exact ⟨h.1, ih h.2⟩

theorem Leads.alternating {cs : List (Int × Bool)} {held : Option Int} (h : Leads none cs held) :
    Alternating cs ∧ held = heldAfter cs := by
  induction cs using Alternating.induct with
  | case1 => exact ⟨trivial, h.symm⟩
  | case2 key down =>
      cases down with
      | true => exact ⟨rfl, h.2.symm⟩
      | false => cases h.1
  | case3 key down key' down' cs ih =>
      cases down with
      | false => cases h.1
      | true =>
          cases down' with
          | true => cases h.2.1
          | false =>
              obtain ⟨-, hkey, hrest⟩ := h
              obtain ⟨halt, hheld⟩ := ih hrest
              refine ⟨⟨rfl, (Option.some.inj hkey).symm, rfl, halt⟩, ?_⟩
              cases cs with
              | nil => exact hheld
              | cons c cs => rw [hheld, heldAfter, heldAfter, List.getLast?_cons_cons,
                  List.getLast?_cons_cons]

/-! ## What a call adds to the history -/

/-- What happened between two keypads: the history has got longer, by changes that fit, and by
telling that has its place in any round that has begun. The latest rounds before and after
it are given. -/
def Course (top top' : List Round) (k k' : Keypad) : Prop :=
  ∃ es, k'.history.toList = k.history.toList ++ es ∧
    Leads k.held (changes es) k'.held ∧
    ∀ rounds, Begun rounds → Telling.after? ⟨top ++ rounds, k.listeners.size⟩ es =
      some ⟨top' ++ rounds, k'.listeners.size⟩

theorem Course.refl (top : List Round) (k : Keypad) : Course top top k k :=
  ⟨[], (List.append_nil _).symm, rfl, fun _ _ => rfl⟩

theorem Course.trans {top top' top'' : List Round} {k k' k'' : Keypad}
    (h : Course top top' k k') (h' : Course top' top'' k' k'') : Course top top'' k k'' := by
  obtain ⟨es, hhistory, hleads, htelling⟩ := h
  obtain ⟨es', hhistory', hleads', htelling'⟩ := h'
  refine ⟨es ++ es', ?_, ?_, fun rounds hr => ?_⟩
  · rw [hhistory', hhistory, List.append_assoc]
  · rw [changes, List.filterMap_append]
    exact hleads.append hleads'
  · rw [Telling.after?_append, htelling rounds hr]
    exact htelling' rounds hr

/-- Calls can be made in the midst of a round that has begun. -/
theorem Course.within {top : List Round} {k k' : Keypad} (h : Course [] [] k k')
    (ht : Begun top) : Course top top k k' := by
  obtain ⟨es, hhistory, hleads, htelling⟩ := h
  refine ⟨es, hhistory, hleads, fun rounds hr => htelling (top ++ rounds) fun r hmem => ?_⟩
  rcases List.mem_append.1 hmem with hmem | hmem
  · exact ht r hmem
  · exact hr r hmem

theorem Course.size_le {top top' : List Round} {k k' : Keypad} (h : Course top top' k k') :
    k.listeners.size ≤ k'.listeners.size := by
  obtain ⟨es, -, -, htelling⟩ := h
  exact Telling.listeners_le_of_after? (htelling [] fun _ h => nomatch h)

/-- One event. -/
theorem Course.of_event {top top' : List Round} {k k' : Keypad} {e : Event}
    (hhistory : k'.history = k.history.push e) (hleads : Leads k.held (changes [e]) k'.held)
    (htelling : ∀ rounds, Begun rounds → Telling.next? ⟨top ++ rounds, k.listeners.size⟩ e =
      some ⟨top' ++ rounds, k'.listeners.size⟩) : Course top top' k k' := by
  refine ⟨[e], by rw [hhistory, Array.toList_push], hleads, fun rounds hr => ?_⟩
  rw [Telling.after?_cons, htelling rounds hr]
  rfl

theorem begun_ongoing {key : Int} {down : Bool} {untold : List Nat} (h : 0 ∉ untold) :
    Begun (Round.mk key down untold).ongoing := by
  intro r hr
  rw [Round.ongoing] at hr
  split at hr
  · cases hr
  · obtain rfl := List.mem_singleton.1 hr
    exact h

/-! ## Plans that name keys -/

theorem callsValid_iff {calls : List Call} : CallsValid calls ↔ ∀ c ∈ calls, c.Valid := by
  induction calls with
  | nil => simp [CallsValid]
  | cons c rest ih => rw [CallsValid, ih, List.forall_mem_cons]

theorem planValid_takeReaction {down : Bool} {plan left : List Reaction} {calls : List Call}
    (hv : PlanValid plan) (h : takeReaction down plan = (some calls, left)) :
    CallsValid calls ∧ PlanValid left := by
  induction plan generalizing left with
  | nil => cases h
  | cons r rest ih =>
      obtain ⟨down', calls'⟩ := r
      obtain ⟨hr, hrest⟩ := hv
      rw [takeReaction] at h
      split at h
      · cases h
        exact ⟨hr, hrest⟩
      · cases htake : takeReaction down rest with
        | mk found left' =>
            rw [htake] at h
            cases h
            obtain ⟨hcalls, hleft⟩ := ih hrest htake
            exact ⟨hcalls, hr, hleft⟩

theorem Sound.setPlan {k : Keypad} (h : k.Sound) (place : Nat) (l : Listener)
    {plan : List Reaction} (hp : PlanValid plan) :
    Sound { k with listeners := k.listeners.setIfInBounds place { l with plan := plan } } := by
  intro l' hl'
  rcases Array.mem_or_eq_of_mem_setIfInBounds hl' with hmem | rfl
  · exact h l' hmem
  · exact hp

theorem Sound.listen {k : Keypad} (h : k.Sound) {l : Listener} (hl : PlanValid l.plan) :
    Sound { k with listeners := k.listeners.push l } := by
  intro l' hl'
  rcases Array.mem_push.1 hl' with hmem | rfl
  · exact h l' hmem
  · exact hl

/-! ## Calls from inside calls -/

/-- Calls that bring less than a number of reactions, and find them, succeed and proceed as
they should. -/
def Serves (perform : Performer) (n : Nat) : Prop :=
  ∀ c k, Call.Valid c → Sound k → k.pending + c.weight < n →
    ∃ k' a, perform c k = (k', .ok a) ∧ k'.Sound ∧ Course [] [] k k'

/-- A call has itself made a change: the first thing that happened was this change. -/
def Makes (key : Int) (down : Bool) (k k' : Keypad) : Prop :=
  ∃ more, k'.history.toList = k.history.toList ++ .changed key down :: more

/-- What a call answers: a press or a release, whether it has made its change. Otherwise
nothing has happened. -/
def Truthful (k k' : Keypad) : Call → Option Bool → Prop
  | .press key, a => a = some true ∧ Makes key true k k' ∨ a = some false ∧ k' = k
  | .release key, a => a = some true ∧ Makes key false k k' ∨ a = some false ∧ k' = k
  | .releaseAll, a => a = none
  | .listen _ _, a => a = none

section

variable {perform : Performer} {n : Nat} (hp : Frugal perform) (hs : Serves perform n)
include hp hs

theorem course_performAll {calls : List Call} {k : Keypad} (hv : CallsValid calls)
    (hk : k.Sound) (h : k.pending + callsWeight calls < n) :
    ∃ k', performAll perform calls k = (k', .ok ()) ∧ k'.Sound ∧ Course [] [] k k' := by
  induction calls generalizing k with
  | nil => exact ⟨k, rfl, hk, .refl [] k⟩
  | cons c rest ih =>
      rw [callsWeight] at h
      obtain ⟨k₁, a, heq, hk₁, hc₁⟩ := hs c k hv.1 hk (by omega)
      have hpending := hp.of_eq heq
      obtain ⟨k', heq', hk', hc'⟩ := ih hv.2 hk₁ (by omega)
      refine ⟨k', ?_, hk', hc₁.trans hc'⟩
      rw [performAll, heq]
      exact heq'

/-- To be told is to be told in turn, and what a listener does then it does in the midst of
the round. -/
theorem course_tell {k : Keypad} (hk : k.Sound) (h : k.pending ≤ n) {place : Nat}
    (hplace : place < k.listeners.size) (key : Int) (down : Bool) {rest : List Nat}
    (hrest : 0 ∉ rest) :
    ∃ k', tell perform place key down k = (k', .ok ()) ∧ k'.Sound ∧
      Course (Round.mk key down (place :: rest)).ongoing (Round.mk key down rest).ongoing k k' := by
  have htold : Course (Round.mk key down (place :: rest)).ongoing
      (Round.mk key down rest).ongoing k (k.record (.heard place key down)) := by
    refine .of_event rfl rfl fun rounds _ => ?_
    exact Telling.next?_heard.2 ⟨rest, rounds, rfl, rfl⟩
  rw [tell, Array.getElem?_eq_getElem hplace]
  dsimp only
  split
  · exact ⟨_, rfl, hk, htold⟩
  · next calls left htake =>
      have hvalid := hk _ (Array.getElem_mem hplace)
      obtain ⟨hcalls, hleft⟩ := planValid_takeReaction hvalid htake
      have hspent := pending_setPlan (k := k.record (.heard place key down))
        (Array.getElem?_eq_getElem hplace) left
      have hweight := planWeight_takeReaction htake
      rw [pending_record] at hspent
      have hk₁ : Sound (k.record (.heard place key down)) := hk
      have hk₂ := hk₁.setPlan place k.listeners[place] hleft
      obtain ⟨k', heq, hk', hcourse⟩ := course_performAll hp hs hcalls hk₂ (by omega)
      refine ⟨k', heq, hk', htold.trans ?_⟩
      -- A plan is no part of the history, and nothing is told by changing it.
      have hplan : Course [] [] (k.record (.heard place key down)) k' := by
        obtain ⟨es, hhistory, hleads, htelling⟩ := hcourse
        refine ⟨es, hhistory, hleads, fun rounds hr => ?_⟩
        have := htelling rounds hr
        rwa [Array.size_setIfInBounds] at this
      exact hplan.within (begun_ongoing hrest)

theorem course_tellAll (places : List Nat) {k : Keypad} (hk : k.Sound) (h : k.pending ≤ n)
    (hplaces : ∀ p ∈ places, p < k.listeners.size) (htail : 0 ∉ places.tail) (key : Int)
    (down : Bool) :
    ∃ k', tellAll perform key down places k = (k', .ok ()) ∧ k'.Sound ∧
      Course (Round.mk key down places).ongoing [] k k' := by
  induction places generalizing k with
  | nil => exact ⟨k, rfl, hk, .refl [] k⟩
  | cons place rest ih =>
      obtain ⟨k₁, heq, hk₁, hc₁⟩ := course_tell hp hs hk h
        (hplaces place List.mem_cons_self) key down htail
      have hpending := pending_tell_le hp place key down k
      rw [heq] at hpending
      obtain ⟨k', heq', hk', hc'⟩ := ih hk₁ (Nat.le_trans hpending h)
        (fun p hp => Nat.lt_of_lt_of_le (hplaces p (List.mem_cons_of_mem _ hp)) hc₁.size_le)
        (fun h0 => htail (List.mem_of_mem_tail h0))
      refine ⟨k', ?_, hk', hc₁.trans hc'⟩
      rw [tellAll, heq]
      exact heq'

theorem course_change {k : Keypad} (hk : k.Sound) (h : k.pending ≤ n) {held : Option Int}
    {key : Int} {down : Bool} (hleads : Leads k.held [(key, down)] held) :
    ∃ k', change perform held key down k = (k', .ok ()) ∧ k'.Sound ∧ Course [] [] k k' ∧
      Makes key down k k' := by
  obtain ⟨k₁, hk₁⟩ : ∃ k₁, k₁ = ({ k with held := held } : Keypad).record (.changed key down) :=
    ⟨_, rfl⟩
  have hchanged : Course [] (Round.mk key down (List.range k.listeners.size)).ongoing k k₁ := by
    subst hk₁
    refine .of_event rfl hleads fun rounds hr => ?_
    exact Telling.next?_changed.2 ⟨hr, rfl⟩
  have hzero : 0 ∉ (List.range k.listeners.size).tail := by
    rw [List.range_eq_range', List.tail_range']
    simp
  obtain ⟨k', heq, hk', hc'⟩ := course_tellAll hp hs (List.range k.listeners.size) (k := k₁)
    (by subst hk₁; exact hk) (by subst hk₁; exact h)
    (by subst hk₁; exact fun p hp => List.mem_range.1 hp) hzero key down
  refine ⟨k', ?_, hk', hchanged.trans hc', ?_⟩
  · subst hk₁
    exact heq
  · obtain ⟨es, hhistory, -⟩ := hc'
    refine ⟨es, ?_⟩
    rw [hhistory, hk₁, record, Array.toList_push, List.append_assoc]
    rfl

theorem course_performWith {c : Call} {k : Keypad} (hv : c.Valid) (hk : k.Sound)
    (h : k.pending + c.weight ≤ n) :
    ∃ k' a, performWith perform c k = (k', .ok a) ∧ k'.Sound ∧ Course [] [] k k' ∧
      Truthful k k' c a := by
  have hpending : k.pending ≤ n := Nat.le_of_add_right_le h
  cases c with
  | press key =>
      rw [performWith, checked_of_isKey hv]
      split
      · exact ⟨k, some false, rfl, hk, .refl [] k, .inr ⟨rfl, rfl⟩⟩
      · next hfree =>
          rw [Option.not_isSome_iff_eq_none] at hfree
          obtain ⟨k', heq, hk', hc, hmakes⟩ := course_change hp hs hk hpending
            (show Leads k.held [(key, true)] (some key) from ⟨hfree, rfl⟩)
          refine ⟨k', some true, ?_, hk', hc, .inl ⟨rfl, hmakes⟩⟩
          rw [heq]
          rfl
  | release key =>
      rw [performWith, checked_of_isKey hv]
      split
      · next hheld =>
          obtain ⟨k', heq, hk', hc, hmakes⟩ := course_change hp hs hk hpending
            (show Leads k.held [(key, false)] none from ⟨hheld, rfl⟩)
          refine ⟨k', some true, ?_, hk', hc, .inl ⟨rfl, hmakes⟩⟩
          rw [heq]
          rfl
      · exact ⟨k, some false, rfl, hk, .refl [] k, .inr ⟨rfl, rfl⟩⟩
  | releaseAll =>
      rw [performWith]
      split
      · exact ⟨k, none, rfl, hk, .refl [] k, rfl⟩
      · next key hheld =>
          obtain ⟨k', heq, hk', hc, -⟩ := course_change hp hs hk hpending
            (show Leads k.held [(key, false)] none from ⟨hheld, rfl⟩)
          refine ⟨k', none, ?_, hk', hc, rfl⟩
          rw [heq]
          rfl
  | listen name plan =>
      refine ⟨_, none, rfl, hk.listen (l := ⟨name, plan⟩) hv, ?_, rfl⟩
      refine .of_event rfl rfl fun rounds hr => ?_
      refine Telling.next?_registered.2 ⟨hr, rfl, ?_⟩
      simp [record]

end

theorem serves_performWithin (n : Nat) : Serves (performWithin n) (n + 1) := by
  induction n with
  | zero =>
      intro c k hv hk h
      obtain ⟨k', a, heq, hk', hc, -⟩ := course_performWith (n := 0) frugal_idle
        (fun _ _ _ _ h => absurd h (Nat.not_lt_zero _)) hv hk (Nat.le_of_lt_succ h)
      exact ⟨k', a, heq, hk', hc⟩
  | succ n ih =>
      intro c k hv hk h
      obtain ⟨k', a, heq, hk', hc, -⟩ := course_performWith (frugal_performWithin n) ih hv hk
        (Nat.le_of_lt_succ h)
      exact ⟨k', a, heq, hk', hc⟩

theorem frugal_perform : Frugal perform := fun c k => frugal_performWithin _ c k

theorem serves_perform (n : Nat) : Serves perform n := fun c k hv hk _ =>
  serves_performWithin _ c k hv hk (Nat.lt_succ_self _)

/-- A call on any keypad, be it from inside other calls or not. -/
theorem course_perform {c : Call} {k : Keypad} (hv : c.Valid) (hk : k.Sound) :
    ∃ k' a, perform c k = (k', .ok a) ∧ k'.Sound ∧ Course [] [] k k' ∧ Truthful k k' c a := by
  rw [perform_eq]
  exact course_performWith frugal_perform (serves_perform _) hv hk (Nat.le_refl _)

theorem answering_fst (answer : Option Bool) (x : Keypad × Except InvalidKey Unit) :
    (answering answer x).1 = x.1 := by
  obtain ⟨k, _ | _⟩ := x <;> rfl

theorem press_eq {k : Keypad} {key : Int} (hkey : IsKey key) (hfree : k.held = none) :
    press k key = answering (some true) (change perform (some key) key true k) := by
  rw [press, perform_eq, performWith, checked_of_isKey hkey, hfree]
  rfl

theorem makes_press {k : Keypad} (hk : k.Sound) {key : Int} (hkey : IsKey key)
    (hfree : k.held = none) : Makes key true k (press k key).1 := by
  have hleads : Leads k.held [(key, true)] (some key) := ⟨hfree, rfl⟩
  obtain ⟨k', hchange, -, -, hmakes⟩ :=
    course_change frugal_perform (serves_perform _) hk (Nat.le_refl _) hleads
  rw [press_eq hkey hfree, answering_fst, hchange]
  exact hmakes

/-! ## A keypad's whole history -/

/-- What the history of a keypad says when no call is under way. Changes go down and up in
turn and lead to the key that is held. Each of them was told to the listeners that there
were, to each of them once, before its call came back, and to nobody else. So a listener
has heard of all changes that were made after it was registered and of none that were made
before, and the first one has heard of them in order. -/
structure Delivered (k : Keypad) : Prop where
  alternating : Alternating (changes k.history.toList)
  held : k.held = heldAfter (changes k.history.toList)
  rounds : Telling.after? {} k.history.toList = some ⟨[], k.listeners.size⟩
  heard : ∀ place, (heardBy place k.history.toList).Perm
    (changes (since place k.history.toList))
  before : ∀ place es more, k.history.toList = es ++ .registered place :: more →
    heardBy place es = []
  first : heardBy 0 k.history.toList = changes (since 0 k.history.toList)

theorem delivered_of_course {k : Keypad} (h : Course [] [] {} k) : k.Delivered := by
  obtain ⟨es, hhistory, hleads, htelling⟩ := h
  rw [List.nil_append] at hhistory
  subst hhistory
  have hrounds : Telling.after? {} k.history.toList = some ⟨[], k.listeners.size⟩ :=
    htelling [] fun _ h => nomatch h
  obtain ⟨halternating, hheld⟩ := hleads.alternating
  refine ⟨halternating, hheld, hrounds, fun place => ?_, ?_, ?_⟩
  · simpa [Telling.owed, Telling.due] using Telling.heard_owed hrounds place
  · intro place es more hsplit
    rw [hsplit, Telling.after?_append, Option.bind_eq_some_iff] at hrounds
    obtain ⟨t, ht, hmore⟩ := hrounds
    obtain ⟨u, hu, -⟩ := Telling.after?_cons_eq_some.1 hmore
    obtain ⟨-, rfl, -⟩ := Telling.next?_registered.1 hu
    have hheard := Telling.heard_owed ht t.listeners
    rw [Telling.due_of_le ht (Nat.le_refl _)] at hheard
    exact (List.append_eq_nil_iff.1 hheard.eq_nil).1
  · simpa [Telling.owed, Telling.due] using Telling.first_heard_owed hrounds

/-- What becomes of a series of calls on a new keypad. All of them come back, and the history
is as it should be. A press or a release tells truly whether it has made its change, which is
said of any keypad there can be: those on which listeners call are among them, and they are
served in the same way. -/
structure Kept (calls : List Call) : Prop where
  delivered : ∃ k, performAll perform calls {} = (k, .ok ()) ∧ k.Delivered
  truthful : ∀ k : Keypad, k.Sound → ∀ c : Call, c.Valid →
    ∃ k' a, perform c k = (k', .ok a) ∧ k'.Sound ∧ Truthful k k' c a
  nested : ∀ c k, perform c k = performWith perform c k

/-- Every change is delivered exactly once to each listener that is there, whatever the
listeners do. -/
theorem changes_delivered {calls : List Call} (h : ∀ c ∈ calls, c.Valid) : Kept calls where
  delivered := by
    obtain ⟨k, heq, -, hc⟩ := course_performAll (k := {}) (n := _ + 1) frugal_perform
      (serves_perform _) (callsValid_iff.2 h) (fun _ hl => nomatch hl) (Nat.lt_succ_self _)
    exact ⟨k, heq, delivered_of_course hc⟩
  truthful := by
    intro k hk c hc
    obtain ⟨k', a, heq, hk', -, hanswer⟩ := course_perform hc hk
    exact ⟨k', a, heq, hk', hanswer⟩
  nested := perform_eq

/-- The first of two listeners lets go of the key that it is told of and presses another, so
that the second is told of all three changes in an order of its own. -/
theorem changes_delivered_reentrant :
    (∀ c ∈ [Call.listen "" [.mk true [.release 3, .press 5]], .listen "" [], .press 3],
      c.Valid) ∧
    ∃ k, performAll perform
        [.listen "" [.mk true [.release 3, .press 5]], .listen "" [], .press 3] {} =
          (k, .ok ()) ∧
      k.Delivered ∧ changes k.history.toList = [(3, true), (3, false), (5, true)] ∧
      heardBy 1 k.history.toList = [(3, false), (5, true), (3, true)] := by
  have hvalid : ∀ c ∈ [Call.listen "" [.mk true [.release 3, .press 5]], .listen "" [],
      .press 3], c.Valid := by
    simp [Call.Valid, PlanValid, Reaction.Valid, CallsValid, IsKey, keyCount]
  obtain ⟨k, heq, hk⟩ := (changes_delivered hvalid).delivered
  obtain rfl : _ = k := congrArg Prod.fst heq
  exact ⟨hvalid, _, heq, hk, rfl, rfl⟩

end ChipEight.Keypad
