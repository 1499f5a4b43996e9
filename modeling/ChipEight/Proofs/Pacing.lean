import ChipEight.Pacing
import Mathlib.Logic.Function.Iterate

/-!
# A pacer by itself

What a pacer does for an instruction depends on its deadline and on the clock, and on
nothing that the instruction does. So the pacers of a run are the iterates of one
function, `keep`, whatever is run, and how far a run got is all there is to know about
its pacer. This file is about that function, and `Sustained` is the one thing a run needs
to know about it: that there always is a next pacer.

Times that are numbers may be too great to be moved on, and a clock may refuse to wait.
A clock that `Serves` does neither: its readings are doubles or could be, and it wakes up
from every sleep. After the first instruction the deadline is a double as well, and sums
and differences of doubles always exist.
-/

namespace ChipEight

namespace Pacer

section

variable {τ : Type} [Timeline τ] [Neg τ] [LT τ] [DecidableLT τ] [OfNat τ 0]

/-- The pacer after one more instruction. Without a period there is nothing to do for it,
and one that cannot go on stays where it is. -/
def keep (period : Option τ) (maxLag : τ) (clock : Clock τ) (p : Pacer τ) : Pacer τ :=
  match period with
  | none => p
  | some period =>
      match p.next period maxLag clock with
      | .ok move => p.follow move
      | .error _ => p

/-- There always is a next pacer. -/
def Sustained (period : Option τ) (maxLag : τ) (clock : Clock τ) (p : Pacer τ) : Prop :=
  ∀ n, ∀ q ∈ period,
    ∃ move, ((keep period maxLag clock)^[n] p).next q maxLag clock = .ok move

variable {period : Option τ} {q maxLag : τ} {clock : Clock τ} {p : Pacer τ}

/-- What a pacer does where its times can be computed: it sleeps until its deadline, gives up
the time that is lost, or lets it be. -/
theorem next_of_times {deadline wait : τ} (hlater : Timeline.later p.deadline q = .ok deadline)
    (hsince : Timeline.since deadline (clock.reading p.readings) = .ok wait) :
    p.next q maxLag clock =
      if 0 < wait then
        if clock.canWait wait then .ok ⟨deadline, p.readings + 1, some wait⟩
        else .error .waitTooLong
      else if wait < -maxLag then
        .ok ⟨clock.reading (p.readings + 1), p.readings + 2, none⟩
      else .ok ⟨deadline, p.readings + 1, none⟩ := by
  have hmap : ∀ a : τ, (Except.ok a : Except ArithmeticFault τ).mapError PacingFault.noTime =
      .ok a := fun _ => rfl
  simp only [next, hlater, hsince, hmap, bind, Except.bind]
  cases clock.canWait wait <;> rfl

theorem keep_of_next {move : Move τ} (h : p.next q maxLag clock = .ok move) :
    p.keep (some q) maxLag clock = p.follow move := by
  rw [keep, h]

theorem iterate_keep_none (n : Nat) : (keep none maxLag clock)^[n] p = p :=
  Function.iterate_fixed rfl n

theorem sustained_none : p.Sustained none maxLag clock := by
  intro n q hq
  cases hq

theorem Sustained.iterate (h : p.Sustained period maxLag clock) (n : Nat) :
    ((Pacer.keep period maxLag clock)^[n] p).Sustained period maxLag clock := by
  intro k
  rw [← Function.iterate_add_apply]
  exact h (k + n)

end

end Pacer

/-! ## Times that are numbers -/

namespace Number

end Number

/-- A clock whose readings could all be doubles and which wakes up from every sleep. -/
structure Clock.Serves (clock : Clock Number) : Prop where
  readings : ∀ i, ∃ x, (clock.reading i).toReal = .ok x
  waits : ∀ wait, clock.canWait wait = true

namespace Pacer

end Pacer

end ChipEight
