import ChipEight.Options.Parse
import ChipEight.Options.Setting
import ChipEight.Proofs.Except

/-!
# What a command line hands on

Which options and operands a command line hands on, in which order and with which values, does
not depend on what becomes of them: it is the same for a handler that only writes them down.
What any handler makes of a command line that it does not refuse is what it makes of that
record, one entry after the other.
-/

namespace ChipEight.Options

variable {σ : Type} {g : Grammar} {h : Handler σ}

/-- Something that is handed on: an option with its values, or the words of an operand. -/
inductive Handed where
  | flag (f : Flag) (values : List String)
  | operand (words : List String)
  deriving DecidableEq, Repr

/-- The handler that writes down what is handed on. -/
def recorder : Handler (List Handed) where
  onFlag hs f values := .ok (hs ++ [.flag f values])
  onOperand hs words := .ok (hs ++ [.operand words])

/-- What arguments hand on, with what is left over. -/
def handed (g : Grammar) (args : List String) : Except Exit (List Handed × List String) :=
  parse g recorder [] args

/-- What a handler makes of something that is handed on, unless it refuses it. -/
def Handler.take? (h : Handler σ) (s : σ) : Handed → Option σ
  | .flag f values => (h.onFlag s f values).toOption
  | .operand words => (h.onOperand s words).toOption

/-- What a handler makes of all that is handed on. -/
def Handler.takeAll? (h : Handler σ) (s : σ) (hs : List Handed) : Option σ := hs.foldlM h.take? s

/-! ## One step -/

theorem takeAll?_concat (s : σ) (hs : List Handed) (x : Handed) :
    h.takeAll? s (hs ++ [x]) = (h.takeAll? s hs).bind (h.take? · x) := by
  simp only [Handler.takeAll?, List.foldlM_append, List.foldlM_cons, List.foldlM_nil, bind_pure]
  rfl

theorem toOption_eq_some_iff {ε α : Type} {x : Except ε α} {a : α} :
    x.toOption = some a ↔ x = .ok a := by
  cases x <;> simp [Except.toOption]

theorem take?_flag_iff {s s' : σ} {f : Flag} {values : List String} :
    h.take? s (.flag f values) = some s' ↔ h.onFlag s f values = .ok s' :=
  toOption_eq_some_iff

theorem take?_operand_iff {s s' : σ} {words : List String} :
    h.take? s (.operand words) = some s' ↔ h.onOperand s words = .ok s' :=
  toOption_eq_some_iff

/-- The record of a state: what made it of the state in the beginning. -/
def Records (h : Handler σ) (start s : σ) (hs : List Handed) : Prop :=
  h.takeAll? start hs = some s

section

variable {start s s' : σ} {hs : List Handed} {p p' : Progress σ} {q : Progress (List Handed)}

theorem Records.concat (hrec : Records h start s hs) {x : Handed} (hx : h.take? s x = some s') :
    Records h start s' (hs ++ [x]) := by
  rw [Records, takeAll?_concat, hrec]
  exact hx

theorem takeFlag_records {f : Flag} {given : List String}
    (hrec : Records h start s hs) (hok : takeFlag g h s f given = .ok s') :
    ∃ hs', takeFlag g recorder hs f given = .ok hs' ∧ Records h start s' hs' := by
  unfold takeFlag at hok ⊢
  split at hok
  · cases hok
  · next hhelp =>
      split at hok
      · next hflag =>
          cases hok
          exact ⟨_, if_neg hhelp, hrec.concat (take?_flag_iff.2 hflag)⟩
      · cases hok

theorem takeFlags_records {fs : List (Flag × List String)} (hrec : Records h start s hs)
    (hok : fs.foldlM (fun s (f, given) => takeFlag g h s f given) s = .ok s') :
    ∃ hs', fs.foldlM (fun hs (f, given) => takeFlag g recorder hs f given) hs = .ok hs' ∧
      Records h start s' hs' := by
  induction fs generalizing s hs with
  | nil =>
      cases hok
      exact ⟨hs, rfl, hrec⟩
  | cons f fs ih =>
      obtain ⟨f, given⟩ := f
      rw [List.foldlM_cons] at hok
      obtain ⟨s₁, hs₁, hok⟩ := bind_eq_ok hok
      obtain ⟨hs', htake, hrec⟩ := takeFlag_records hrec hs₁
      simp only [List.foldlM_cons, htake, ok_bind]
      exact ih hrec hok

/-! ## A command line in the course of being consumed -/

/-- The recorder is as far as the handler, and has the record of its state. -/
structure Follows (h : Handler σ) (start : σ) (p : Progress σ) (q : Progress (List Handed)) :
    Prop where
  records : Records h start p.state q.state
  operandTaken : q.operandTaken = p.operandTaken
  extras : q.extras = p.extras

theorem Follows.leave (hq : Follows h start p q) (ts : List Token) :
    Follows h start (leave p ts) (leave q ts) where
  records := hq.records
  operandTaken := hq.operandTaken
  extras := congrArg (· ++ ts.map Token.raw) hq.extras

theorem consumeFlag_follows {f : Flag} {attached : Option Attached} {behind rest : List Token}
    (hq : Follows h start p q) (hok : consumeFlag g h p f attached behind = .ok (p', rest)) :
    ∃ q', consumeFlag g recorder q f attached behind = .ok (q', rest) ∧
      Follows h start p' q' := by
  obtain ⟨b, hb, hok⟩ := bind_eq_ok hok
  obtain ⟨⟨given, ts⟩, hgiven, hok⟩ := bind_eq_ok hok
  obtain ⟨s, hs, hok⟩ := bind_eq_ok hok
  cases hok
  obtain ⟨hs', htaken, hrec⟩ := takeFlags_records hq.records hs
  refine ⟨{ q with state := hs' }, ?_, hrec, hq.operandTaken, hq.extras⟩
  simp only [consumeFlag, hb, hgiven, htaken, ok_bind]
  rfl

theorem consumeOperand_follows {ts rest : List Token} (hq : Follows h start p q)
    (hok : consumeOperand g h p ts = .ok (p', rest)) :
    ∃ q', consumeOperand g recorder q ts = .ok (q', rest) ∧ Follows h start p' q' := by
  unfold consumeOperand at hok ⊢
  rw [hq.operandTaken]
  split at hok
  · next htaken =>
      cases hok
      exact ⟨q, if_pos htaken, hq⟩
  · next htaken =>
      rw [if_neg htaken]
      split at hok
      · cases hok
        exact ⟨q, rfl, hq⟩
      · obtain ⟨s, hs, hok⟩ := bind_eq_ok hok
        cases hok
        exact ⟨_, rfl, hq.records.concat (take?_operand_iff.2 hs), rfl, hq.extras⟩

theorem consume_follows {rounds : Nat} {ts : List Token} (hq : Follows h start p q)
    (hok : consume g h rounds p ts = .ok p') :
    ∃ q', consume g recorder rounds q ts = .ok q' ∧ Follows h start p' q' := by
  -- Every round hands something on or leaves something over, and `Follows` survives both.
  fun_induction consume g h rounds p ts generalizing q with
  | case1 p ts =>
      cases hok
      exact ⟨_, rfl, hq.leave ts⟩
  | case2 rounds p f attached raw behind hany ih =>
      obtain ⟨⟨p₁, rest⟩, hp₁, hok⟩ := bind_eq_ok hok
      obtain ⟨q₁, hq₁, hfollows⟩ := consumeFlag_follows hq hp₁
      simp only [consume, hany, if_true, hq₁, ok_bind]
      exact ih p₁ rest hfollows hok
  | case3 rounds p raw behind hany ih =>
      simp only [consume, hany, if_true]
      exact ih (hq.leave _) hok
  | case4 rounds p ts hflag hunknown hany ihTaken ihLeft =>
      obtain ⟨⟨p₁, rest⟩, hp₁, hok⟩ := bind_eq_ok hok
      obtain ⟨q₁, hq₁, hfollows⟩ := consumeOperand_follows hq hp₁
      rw [consume.eq_4 _ _ _ _ _ hflag hunknown]
      simp only [hany, if_true, hq₁, ok_bind] at hok ⊢
      split
      · next hrest =>
          rw [if_pos hrest] at hok
          exact ihTaken p₁ rest hfollows hok
      · next hrest =>
          rw [if_neg hrest] at hok
          exact ihLeft p₁ (hfollows.leave _) hok
  | case5 rounds p ts hany =>
      obtain ⟨⟨p₁, rest⟩, hp₁, hok⟩ := bind_eq_ok hok
      obtain ⟨q₁, hq₁, hfollows⟩ := consumeOperand_follows hq hp₁
      cases hok
      simp only [consume, hany, hq₁, ok_bind]
      exact ⟨_, rfl, hfollows.leave rest⟩

end

/-- What a handler makes of arguments that it does not refuse. -/
theorem parse_eq_ok {start s : σ} {args extras : List String}
    (hok : parse g h start args = .ok (s, extras)) :
    ∃ hs, handed g args = .ok (hs, extras) ∧ h.takeAll? start hs = some s := by
  obtain ⟨ts, hts, hok⟩ := bind_eq_ok hok
  obtain ⟨p, hp, hok⟩ := bind_eq_ok hok
  have hstart : Follows h start { state := start } { state := [] } := ⟨rfl, rfl, rfl⟩
  obtain ⟨q, hq, hfollows⟩ := consume_follows hstart hp
  split at hok
  · cases hok
  · next hmissing =>
      cases hok
      refine ⟨q.state, ?_, hfollows.records⟩
      rw [← hfollows.operandTaken] at hmissing
      simp only [handed, parse, hts, hq, ok_bind, hfollows.extras]
      exact if_neg hmissing

end ChipEight.Options
