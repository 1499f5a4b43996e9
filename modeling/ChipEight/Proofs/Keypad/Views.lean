import ChipEight.Proofs.Keypad.Delivery

/-!
# What a listener makes of the changes

A listener that wants to know which key is held can go by what it is told: down and up in
turn, and the last thing it was told is the state of affairs. That is so for the changes
themselves, so it is so for a listener that is told of them in their order. Everybody is told
of every change once, but in their order only those are told who are not overtaken. Where a
listener acts on being told, the ones behind it hear of what it did before they hear of what
it was told.

So a view is right if its owner had been told of everything so far whenever a change was made
(`Timely`). Who is in that position does not depend on the listener itself, which may call the
keypad as it likes, nor on those behind it. It is enough that those in front of it make no
calls. That is shown from within, by counting: between a change and its telling a timely
listener is one change behind, silent listeners leave it there, and once it was told it is
abreast and every call leaves it so (`Behind`).
-/

namespace ChipEight.Keypad

/-- A listener goes by what it was told: down and up in turn, and the last key that went down
and did not come up again is the key that is held. -/
structure Right (told : List (Int × Bool)) (held : Option Int) : Prop where
  alternating : Alternating told
  last : ∀ key, told.getLast? = some (key, true) ↔ held = some key

/-- Whenever a change was made, the listener at a place had been told of all earlier ones. -/
def Timely (place : Nat) (es : List Event) : Prop :=
  ∀ before key down more, es = before ++ .changed key down :: more →
    (heardBy place before).length = (changes before).length

/-- A listener with such a plan makes no calls. -/
def Silent (plan : List Reaction) : Prop := ∀ r ∈ plan, r.calls = []

theorem heldAfter_eq_some_iff {cs : List (Int × Bool)} {key : Int} :
    heldAfter cs = some key ↔ cs.getLast? = some (key, true) := by
  rw [heldAfter]
  split
  · next key' h => simp [h]
  · next h =>
      refine iff_of_false (Option.some_ne_none key).symm fun hlast => ?_
      exact h key hlast

theorem changes_append (es more : List Event) :
    changes (es ++ more) = changes es ++ changes more :=
  List.filterMap_append

theorem heardBy_append (place : Nat) (es more : List Event) :
    heardBy place (es ++ more) = heardBy place es ++ heardBy place more :=
  List.filterMap_append

/-! ## Told in order -/

/-- Nothing is owed to a listener that has been told of all changes. -/
theorem Telling.owed_eq_nil {t t' : Telling} {es : List Event} (h : t.after? es = some t')
    {place : Nat} (hplace : place < t.listeners) (hnone : t.owed place = [])
    (hcount : (heardBy place es).length = (changes es).length) : t'.owed place = [] := by
  have hperm := (Telling.heard_owed h place).length_eq
  rw [hnone, List.nil_append, Telling.due, if_pos hplace, List.length_append] at hperm
  exact List.eq_nil_of_length_eq_zero (by omega)

/-- A timely listener is told of the changes in their order. -/
theorem Telling.heardBy_eq_changes {n : Nat} {t : Telling} {es : List Event}
    (h : (Telling.mk [] n).after? es = some t) (hrounds : t.rounds = []) {place : Nat}
    (hplace : place < n) (ht : Timely place es) : heardBy place es = changes es := by
  have horder := Telling.heard_owed_in_order h fun before key down more u hsplit hu =>
    Telling.owed_eq_nil hu hplace rfl (ht before key down more hsplit)
  have hnow : t.owed place = [] := by rw [Telling.owed, hrounds, List.flatMap_nil]
  have hbefore : (Telling.mk [] n).owed place = [] := rfl
  rwa [hnow, hbefore, List.append_nil, List.nil_append, Telling.due, if_pos hplace] at horder

theorem Leads.right {cs : List (Int × Bool)} {held : Option Int} (h : Leads none cs held) :
    Right cs held := by
  obtain ⟨halternating, rfl⟩ := h.alternating
  exact ⟨halternating, fun key => heldAfter_eq_some_iff.symm⟩

/-! ## One event more -/

section

variable {place : Nat} {es : List Event} {e : Event}

theorem Timely.concat (h : Timely place es)
    (he : ∀ key down, e = .changed key down →
      (heardBy place es).length = (changes es).length) : Timely place (es ++ [e]) := by
  intro before key down more hsplit
  rcases List.eq_nil_or_concat' more with rfl | ⟨init, last, rfl⟩
  · obtain ⟨rfl, hlast⟩ := List.append_inj' hsplit rfl
    exact he key down (List.cons.inj hlast).1
  · rw [← List.cons_append, ← List.append_assoc] at hsplit
    obtain ⟨hes, -⟩ := List.append_inj' hsplit rfl
    exact h before key down init hes

end

/-! ## How far behind a listener is -/

/-- A listener has been told of all changes but so many, it was timely so far, and those in
front of it make no calls. -/
structure Behind (place lag : Nat) (k : Keypad) : Prop where
  silent : ∀ q < place, ∀ l, k.listeners[q]? = some l → Silent l.plan
  taken : place < k.listeners.size
  timely : Timely place k.history.toList
  count : (heardBy place k.history.toList).length + lag = (changes k.history.toList).length

/-- Calls leave a listener abreast. -/
def Punctual (place : Nat) (perform : Performer) : Prop :=
  ∀ c k k' a, Behind place 0 k → perform c k = (k', .ok a) → Behind place 0 k'

section

variable {place lag : Nat} {k : Keypad}

theorem Behind.record {lag' : Nat} {e : Event} (h : Behind place lag k)
    (he : ∀ key down, e = .changed key down → lag = 0)
    (hlag : (heardBy place [e]).length + lag' = lag + (changes [e]).length) :
    Behind place lag' (k.record e) where
  silent := h.silent
  taken := h.taken
  timely := by
    rw [Keypad.record, Array.toList_push]
    refine h.timely.concat fun key down hchanged => ?_
    rw [← h.count, he key down hchanged, Nat.add_zero]
  count := by
    have hcount := h.count
    rw [Keypad.record, Array.toList_push, heardBy_append, changes_append, List.length_append,
      List.length_append]
    omega

theorem Behind.changed (h : Behind place 0 k) (held : Option Int) (key : Int) (down : Bool) :
    Behind place 1 (({ k with held := held } : Keypad).record (.changed key down)) := by
  have hk : Behind place 0 { k with held := held } := ⟨h.silent, h.taken, h.timely, h.count⟩
  exact hk.record (fun _ _ _ => rfl) rfl

theorem Behind.heard_self (h : Behind place 1 k) (key : Int) (down : Bool) :
    Behind place 0 (k.record (.heard place key down)) := by
  refine h.record nofun ?_
  rw [Telling.heardBy_heard, if_pos rfl]
  rfl

theorem Behind.heard_other (h : Behind place lag k) {q : Nat} (hq : q ≠ place) (key : Int)
    (down : Bool) : Behind place lag (k.record (.heard q key down)) := by
  refine h.record nofun ?_
  rw [Telling.heardBy_heard, if_neg hq]
  exact Nat.zero_add lag

theorem Behind.listen (h : Behind place lag k) (l : Listener) :
    Behind place lag (({ k with listeners := k.listeners.push l } : Keypad).record
      (.registered k.listeners.size)) := by
  have hk : Behind place lag { k with listeners := k.listeners.push l } := {
    silent := by
      intro q hq l' hl'
      have hlt : q < k.listeners.size := Nat.lt_trans hq h.taken
      rw [Array.getElem?_push, if_neg (Nat.ne_of_lt hlt)] at hl'
      exact h.silent q hq l' hl'
    taken := by
      rw [Array.size_push]
      exact Nat.lt_succ_of_lt h.taken
    timely := h.timely
    count := h.count }
  exact hk.record nofun (Nat.zero_add lag)

/-- A listener in front keeps to a silent plan; what the others plan makes no difference. -/
theorem Behind.setPlan (h : Behind place lag k) {q : Nat} {l : Listener}
    {plan : List Reaction} (hplan : q < place → Silent plan) :
    Behind place lag
      { k with listeners := k.listeners.setIfInBounds q { l with plan := plan } } where
  silent p hp l' hl' := by
    rw [Array.getElem?_setIfInBounds] at hl'
    split at hl'
    · next heq =>
        subst heq
        split at hl'
        · cases hl'
          exact hplan hp
        · cases hl'
    · exact h.silent p hp l' hl'
  taken := by
    rw [Array.size_setIfInBounds]
    exact h.taken
  timely := h.timely
  count := h.count

end

/-! ## Telling -/

theorem Silent.takeReaction {down : Bool} {plan left : List Reaction} {calls : List Call}
    (hs : Silent plan) (h : takeReaction down plan = (some calls, left)) :
    calls = [] ∧ Silent left := by
  induction plan generalizing left with
  | nil => cases h
  | cons r rest ih =>
      have hr : r.calls = [] := hs r List.mem_cons_self
      have hrest : Silent rest := fun r hmem => hs r (List.mem_cons_of_mem _ hmem)
      rw [Keypad.takeReaction] at h
      split at h
      · cases h
        exact ⟨hr, hrest⟩
      · cases htake : Keypad.takeReaction down rest with
        | mk found left' =>
            rw [htake] at h
            cases h
            obtain ⟨hcalls, hleft⟩ := ih hrest htake
            exact ⟨hcalls, List.forall_mem_cons.2 ⟨hr, hleft⟩⟩

section

variable {perform : Performer} {place : Nat} (hp : Punctual place perform)
include hp

theorem Behind.performAll {calls : List Call} {k k' : Keypad} (h : Behind place 0 k)
    (heq : Keypad.performAll perform calls k = (k', .ok ())) : Behind place 0 k' := by
  induction calls generalizing k with
  | nil =>
      cases heq
      exact h
  | cons c rest ih =>
      rw [Keypad.performAll] at heq
      split at heq
      · next k₁ a hc => exact ih (hp c k k₁ a h hc) heq
      · cases heq

omit hp in
/-- A listener in front is told, and that is all. -/
theorem Behind.tell_front {lag q : Nat} {key : Int} {down : Bool} {k k' : Keypad}
    (h : Behind place lag k) (hq : q < place)
    (heq : tell perform q key down k = (k', .ok ())) : Behind place lag k' := by
  rw [tell] at heq
  split at heq
  · cases heq
    exact h
  · next l hl =>
      have hheard := h.heard_other (Nat.ne_of_lt hq) key down
      dsimp only at heq
      split at heq
      · cases heq
        exact hheard
      · next calls left htake =>
          obtain ⟨rfl, hleft⟩ := (h.silent q hq l hl).takeReaction htake
          cases heq
          exact hheard.setPlan fun _ => hleft

/-- What the listener itself and those behind it do on being told leaves it abreast, if by then
it is. -/
theorem Behind.reacts {q : Nat} {l : Listener} {key : Int} {down : Bool} {k k' : Keypad}
    (h : Behind place 0 (k.record (.heard q key down))) (hq : place ≤ q)
    (hl : k.listeners[q]? = some l) (heq : tell perform q key down k = (k', .ok ())) :
    Behind place 0 k' := by
  rw [tell, hl] at heq
  dsimp only at heq
  split at heq
  · cases heq
    exact h
  · next calls left htake =>
      exact (h.setPlan fun hlt => absurd hlt (Nat.not_lt.2 hq)).performAll hp heq

theorem Behind.tell_self {key : Int} {down : Bool} {k k' : Keypad} (h : Behind place 1 k)
    (heq : tell perform place key down k = (k', .ok ())) : Behind place 0 k' :=
  (h.heard_self key down).reacts hp (Nat.le_refl _) (Array.getElem?_eq_getElem h.taken) heq

theorem Behind.tell_back {q : Nat} {key : Int} {down : Bool} {k k' : Keypad}
    (h : Behind place 0 k) (hq : place < q) (heq : tell perform q key down k = (k', .ok ())) :
    Behind place 0 k' := by
  cases hl : k.listeners[q]? with
  | none =>
      rw [tell, hl] at heq
      cases heq
      exact h
  | some l =>
      exact (h.heard_other (Nat.ne_of_gt hq) key down).reacts hp (Nat.le_of_lt hq) hl heq

/-- Telling some listeners in turn leaves one abreast that is behind only if it is among
them. -/
theorem Behind.tellAll {key : Int} {down : Bool} {places : List Nat} {k k' : Keypad}
    (hsorted : places.Pairwise (· < ·)) (h : Behind place (places.count place) k)
    (heq : Keypad.tellAll perform key down places k = (k', .ok ())) : Behind place 0 k' := by
  -- the lag is how often the listener is still to be told in this round, once or not at all
  induction places generalizing k with
  | nil =>
      cases heq
      exact h
  | cons q rest ih =>
      obtain ⟨hlater, hrest⟩ := List.pairwise_cons.1 hsorted
      rw [Keypad.tellAll] at heq
      split at heq
      · next k₁ _ htell =>
          refine ih hrest ?_ heq
          -- in order: somebody in front, the listener itself, somebody behind it
          rcases Nat.lt_trichotomy q place with hlt | rfl | hgt
          · rw [List.count_cons_of_ne (Nat.ne_of_lt hlt)] at h
            exact h.tell_front hlt htell
          · have hnone : rest.count q = 0 :=
              List.count_eq_zero.2 fun hmem => Nat.lt_irrefl _ (hlater q hmem)
            rw [List.count_cons_self, hnone] at h
            rw [hnone]
            exact h.tell_self hp htell
          · have hnone : rest.count place = 0 :=
              List.count_eq_zero.2 fun hmem => Nat.lt_asymm hgt (hlater place hmem)
            rw [List.count_cons_of_ne (Nat.ne_of_gt hgt), hnone] at h
            rw [hnone]
            exact h.tell_back hp hgt htell
      · cases heq

theorem Behind.change {held : Option Int} {key : Int} {down : Bool} {k k' : Keypad}
    (h : Behind place 0 k) (heq : Keypad.change perform held key down k = (k', .ok ())) :
    Behind place 0 k' := by
  have hone : (List.range k.listeners.size).count place = 1 :=
    List.count_range.trans (if_pos h.taken)
  refine Behind.tellAll hp List.pairwise_lt_range ?_ heq
  show Behind place ((List.range k.listeners.size).count place) _
  rw [hone]
  exact h.changed held key down

theorem punctual_performWith : Punctual place (performWith perform) := by
  have hanswer : ∀ answer held key down (k k' : Keypad) a, Behind place 0 k →
      answering answer (change perform held key down k) = (k', .ok a) → Behind place 0 k' := by
    intro answer held key down k k' a h heq
    cases hr : change perform held key down k with
    | mk k₁ r =>
        rw [hr] at heq
        cases r with
        | ok _ =>
            cases heq
            exact h.change hp hr
        | error f => cases heq
  intro c k k' a h heq
  cases c with
  | press key =>
      rw [performWith, checked] at heq
      split at heq
      · split at heq
        · cases heq
          exact h
        · exact hanswer _ _ _ _ k k' a h heq
      · cases heq
  | release key =>
      rw [performWith, checked] at heq
      split at heq
      · split at heq
        · exact hanswer _ _ _ _ k k' a h heq
        · cases heq
          exact h
      · cases heq
  | releaseAll =>
      rw [performWith] at heq
      split at heq
      · cases heq
        exact h
      · exact hanswer _ _ _ _ k k' a h heq
  | listen name plan =>
      cases heq
      exact h.listen ⟨name, plan⟩

end

theorem punctual_performWithin (place depth : Nat) : Punctual place (performWithin depth) := by
  induction depth with
  | zero =>
      refine punctual_performWith fun c k k' a h heq => ?_
      cases heq
      exact h
  | succ depth ih => exact punctual_performWith ih

theorem punctual_perform (place : Nat) : Punctual place perform := fun c k =>
  punctual_performWithin place _ c k

/-! ## A family of listeners -/

/-- The calls that register some listeners. -/
def registrations (family : List Listener) : List Call :=
  family.map fun l => .listen l.name l.plan

/-- Some listeners have been added to a keypad, and that is all. -/
structure Joined (family : List Listener) (k k' : Keypad) : Prop where
  listeners : k'.listeners.toList = k.listeners.toList ++ family
  held : k'.held = k.held
  changes : changes k'.history.toList = changes k.history.toList
  heard : ∀ place, heardBy place k'.history.toList = heardBy place k.history.toList

theorem exists_performAll_registrations (family : List Listener) (k : Keypad) :
    ∃ k', performAll perform (registrations family) k = (k', .ok ()) ∧ Joined family k k' := by
  induction family generalizing k with
  | nil =>
      exact ⟨k, rfl, (List.append_nil _).symm, rfl, rfl, fun _ => rfl⟩
  | cons l rest ih =>
      obtain ⟨k₁, hk₁⟩ : ∃ k₁, k₁ = ({ k with listeners := k.listeners.push l } : Keypad).record
          (.registered k.listeners.size) := ⟨_, rfl⟩
      have hlisten : perform (.listen l.name l.plan) k = (k₁, .ok none) := by
        rw [perform_eq, hk₁]
        rfl
      have hhistory : k₁.history.toList = k.history.toList ++ [.registered k.listeners.size] := by
        rw [hk₁, record, Array.toList_push]
      obtain ⟨k', heq, hjoined⟩ := ih k₁
      refine ⟨k', ?_, ?_, ?_, ?_, fun place => ?_⟩
      · rw [registrations, List.map_cons, performAll, hlisten]
        exact heq
      · rw [hjoined.listeners, hk₁]
        show (k.listeners.push l).toList ++ rest = _
        rw [Array.toList_push, List.append_assoc]
        rfl
      · rw [hjoined.held, hk₁]
        rfl
      · rw [hjoined.changes, hhistory, changes_append]
        exact List.append_nil _
      · rw [hjoined.heard, hhistory, heardBy_append]
        exact List.append_nil _

theorem performAll_append {perform : Performer} {calls more : List Call} {k k₁ : Keypad}
    (h : performAll perform calls k = (k₁, .ok ())) :
    performAll perform (calls ++ more) k = performAll perform more k₁ := by
  induction calls generalizing k with
  | nil =>
      cases h
      rfl
  | cons c rest ih =>
      rw [performAll] at h
      rw [List.cons_append, performAll]
      split at h
      · exact ih h
      · cases h

/-- What the listeners of a family have made of the changes: all of them were told of each
change once, the view of a timely one is right, and those with nobody in front of them who
makes calls are timely. -/
structure Views (family : List Listener) (k : Keypad) : Prop where
  told : ∀ place < family.length,
    (heardBy place k.history.toList).Perm (changes k.history.toList)
  right : ∀ place < family.length, Timely place k.history.toList →
    Right (heardBy place k.history.toList) k.held
  timely : ∀ place < family.length, (∀ l ∈ family.take place, Silent l.plan) →
    Timely place k.history.toList

section

variable {family : List Listener} {k₀ : Keypad} (hjoined : Joined family {} k₀)
include hjoined

theorem Joined.sound (h : ∀ l ∈ family, PlanValid l.plan) : k₀.Sound := by
  intro l hl
  rw [← Array.mem_toList_iff, hjoined.listeners] at hl
  exact h l hl

theorem Joined.size : k₀.listeners.size = family.length := by
  rw [← Array.length_toList, hjoined.listeners]
  rfl

theorem Joined.behind {place : Nat} (hplace : place < family.length)
    (hfront : ∀ l ∈ family.take place, Silent l.plan) : Behind place 0 k₀ where
  silent q hq l hl := by
    rw [← Array.getElem?_toList, hjoined.listeners] at hl
    refine hfront l (List.mem_of_getElem? (i := q) ?_)
    rw [List.getElem?_take_of_lt hq]
    exact hl
  taken := by
    rw [hjoined.size]
    exact hplace
  timely := by
    intro before key down more hsplit
    have hnone := hjoined.changes
    rw [hsplit, changes_append] at hnone
    cases (List.append_eq_nil_iff.1 hnone).2
  count := by
    rw [hjoined.changes, hjoined.heard]
    rfl

/-- What came before the family was complete has told nobody anything. -/
theorem Joined.timely {place : Nat} {es : List Event}
    (h : Timely place (k₀.history.toList ++ es)) : Timely place es := by
  intro before key down more hsplit
  have hcount := h (k₀.history.toList ++ before) key down more (by
    rw [hsplit, List.append_assoc])
  rw [heardBy_append, changes_append, hjoined.heard, hjoined.changes] at hcount
  exact hcount

end

/-- Everybody who is registered beforehand is told of every change once, and the view of a
listener is right unless somebody in front of it has overtaken it. -/
theorem views_right {family : List Listener} {calls : List Call}
    (hfamily : ∀ l ∈ family, PlanValid l.plan) (hcalls : ∀ c ∈ calls, c.Valid) :
    ∃ k, performAll perform (registrations family ++ calls) {} = (k, .ok ()) ∧
      Views family k := by
  obtain ⟨k₀, h₀, hjoined⟩ := exists_performAll_registrations family {}
  obtain ⟨k, heq, -, es, hhistory, hleads, htelling⟩ := course_performAll frugal_perform
    (serves_perform _) (callsValid_iff.2 hcalls) (hjoined.sound hfamily) (Nat.lt_succ_self _)
  have hrounds : (Telling.mk [] family.length).after? es = some ⟨[], k.listeners.size⟩ := by
    rw [← hjoined.size]
    exact htelling [] nofun
  have hchanges : changes k.history.toList = changes es := by
    rw [hhistory, changes_append, hjoined.changes]
    rfl
  have hheard : ∀ place, heardBy place k.history.toList = heardBy place es := by
    intro place
    rw [hhistory, heardBy_append, hjoined.heard]
    rfl
  refine ⟨k, (performAll_append h₀).trans heq, ?_, ?_, ?_⟩
  · intro place hplace
    have hperm := Telling.heard_owed hrounds place
    rw [Telling.due, if_pos hplace] at hperm
    rw [hheard, hchanges]
    simpa [Telling.owed] using hperm
  · intro place hplace htimely
    rw [hhistory] at htimely
    have horder := Telling.heardBy_eq_changes hrounds rfl hplace (hjoined.timely htimely)
    rw [hjoined.held] at hleads
    rw [hheard, horder]
    exact hleads.right
  · intro place hplace hfront
    exact ((hjoined.behind hplace hfront).performAll (punctual_perform place) heq).timely

/-- A listener that lets go of the key it is told of and presses another, and one behind it
that does nothing: the first has a right view. -/
theorem views_right_first :
    ∃ family calls, family = [⟨"", [.mk true [.release 3, .press 5]]⟩, ⟨"", []⟩] ∧
      calls = [Call.press 3] ∧ (∀ l ∈ family, PlanValid l.plan) ∧ (∀ c ∈ calls, c.Valid) ∧
      ∃ k, performAll perform (registrations family ++ calls) {} = (k, .ok ()) ∧
        Views family k ∧ k.held = some 5 ∧
        heardBy 0 k.history.toList = [(3, true), (3, false), (5, true)] ∧
        Right (heardBy 0 k.history.toList) k.held := by
  have hfamily : ∀ l ∈ [Listener.mk "" [.mk true [.release 3, .press 5]], ⟨"", []⟩],
      PlanValid l.plan := by
    simp [Call.Valid, PlanValid, Reaction.Valid, CallsValid, IsKey, keyCount]
  have hcalls : ∀ c ∈ [Call.press 3], c.Valid := by
    simp [Call.Valid, IsKey, keyCount]
  obtain ⟨k, heq, hviews⟩ := views_right hfamily hcalls
  obtain rfl : _ = k := congrArg Prod.fst heq
  have htimely := hviews.timely 0 (by decide) fun _ hl => absurd hl List.not_mem_nil
  exact ⟨_, _, rfl, rfl, hfamily, hcalls, _, heq, hviews, rfl, rfl,
    hviews.right 0 (by decide) htimely⟩

/-- A listener is overtaken if the one in front of it lets go of the key that it is told of.
What it is told last of all is that the key is down. -/
theorem overtaken_view_wrong :
    ∃ family calls, family = [⟨"", [.mk true [.release 3]]⟩, ⟨"", []⟩] ∧
      calls = [Call.press 3] ∧ (∀ l ∈ family, PlanValid l.plan) ∧ (∀ c ∈ calls, c.Valid) ∧
      ∃ k, performAll perform (registrations family ++ calls) {} = (k, .ok ()) ∧
        k.held = none ∧ heardBy 1 k.history.toList = [(3, false), (3, true)] ∧
        ¬ Right (heardBy 1 k.history.toList) k.held := by
  refine ⟨_, _, rfl, rfl, ?_, ?_, _, rfl, rfl, rfl, fun h => ?_⟩
  · simp [Call.Valid, PlanValid, Reaction.Valid, CallsValid, IsKey, keyCount]
  · simp [Call.Valid, IsKey, keyCount]
  · cases (h.last 3).1 rfl

end ChipEight.Keypad
