import ChipEight.Console.Commands
import ChipEight.Host.Surroundings
import ChipEight.Proofs.Files

/-!
# When a run comes to its configuration

A session in memory is a function from the surroundings it meets to its answer and the
surroundings it leaves. The part of a run that comes to its configuration answers exactly if the
configuration file loads, the rate of the command line is a number that is not negative, and what
is to be saved can be written in full; it writes no more than that.
-/

namespace ChipEight

namespace Session

variable {α β : Type} {w w' : Surroundings} {a : α}

/-- What a session answers in surroundings, and the surroundings it leaves. -/
def settle (s : Session (StateM Surroundings) α) (w : Surroundings) :
    Except Ending α × Surroundings :=
  StateT.run (ExceptT.run s) w

theorem settle_pure : settle (pure a) w = (.ok a, w) := rfl

theorem settle_throw {e : Ending} : settle (throw e : Session _ α) w = (.error e, w) := rfl

theorem settle_bind (s : Session (StateM Surroundings) α)
    (f : α → Session (StateM Surroundings) β) :
    settle (s >>= f) w = match settle s w with
      | (.ok a, w₁) => settle (f a) w₁
      | (.error e, w₁) => (.error e, w₁) := by
  simp only [settle, ExceptT.run_bind, StateT.run_bind]
  show (match StateT.run (ExceptT.run s) w with
    | (x, w₁) => _) = _
  rcases StateT.run (ExceptT.run s) w with ⟨_ | _, w₁⟩ <;> rfl

theorem settle_bind_eq_ok_iff {s : Session (StateM Surroundings) α}
    {f : α → Session (StateM Surroundings) β} {b : β} :
    settle (s >>= f) w = (.ok b, w') ↔
      ∃ a w₁, settle s w = (.ok a, w₁) ∧ settle (f a) w₁ = (.ok b, w') := by
  rw [settle_bind]
  rcases settle s w with ⟨_ | a, w₁⟩
  · simp
  · simp

theorem settle_leave_ne {e : Exit} : settle (leave e : Session _ α) w ≠ (.ok a, w') := by
  intro h
  obtain ⟨_, _, -, h⟩ := settle_bind_eq_ok_iff.1 h
  obtain ⟨_, _, -, h⟩ := settle_bind_eq_ok_iff.1 h
  cases h

theorem settle_refuse_ne {message : String} :
    settle (refuse message : Session _ α) w ≠ (.ok a, w') :=
  settle_leave_ne

end Session

namespace Console

open Session

variable {w w' : Surroundings} {name : String} {c : Config} {j : Json} {r : RunRequest}

/-- The configuration file of these surroundings loads as this configuration; without a file, it
is the default one. -/
def Loads (w : Surroundings) : Option String → Config → Prop
  | none, c => c = .standard
  | some name, c => ∃ bytes, w.files.read name = .ok bytes ∧
      Config.ofContents w.room name bytes = .ok c

theorem settle_loadConfig :
    settle (loadConfig name) w = (.ok c, w') ↔ Loads w (some name) c ∧ w' = w := by
  have hread : settle (ExceptT.lift (Host.read name) : Session (StateM Surroundings) _) w
      = (.ok (w.files.read name), w) := rfl
  have hroom : settle (ExceptT.lift Host.room : Session (StateM Surroundings) _) w
      = (.ok w.room, w) := rfl
  rw [loadConfig, settle_bind, hread]
  simp only [Loads]
  cases w.files.read name with
  | error f => simp [settle_refuse_ne]
  | ok bytes =>
      simp only [Except.ok.injEq, exists_eq_left', settle_bind, hroom]
      split
      · next hdeep => simp [hdeep, settle_throw]
      · next hfault => simp [hfault, settle_refuse_ne]
      · next hc => simp [hc, settle_pure, eq_comm]

/-- A value is written to a file in full, and nothing else changes. -/
def Saves (name : String) (j : Json) (w w' : Surroundings) : Prop :=
  j.textBeforeTooLong? Config.layout = none ∧
    ∃ files, w.files.write name (Text.Utf8.encode (j.render Config.layout)) = .ok files ∧
      w' = { w with files }

theorem settle_saveConfig {u : Unit} :
    settle (saveConfig name j) w = (.ok u, w') ↔ Saves name j w w' := by
  have hwrite (bytes : List UInt8) :
      settle (ExceptT.lift (Host.write name bytes) : Session (StateM Surroundings) _) w
        = (.ok (w.write name bytes).1, (w.write name bytes).2) := rfl
  rw [saveConfig]
  simp only [settle_bind, hwrite, Surroundings.write, Saves]
  cases hcut : j.textBeforeTooLong? Config.layout with
  | some cut =>
      -- What could be written is left in the file, but the session fails.
      cases w.files.write name ((some cut).getD (j.render Config.layout)).toUTF8.toList with
      | ok files => simp [settle_throw]
      | error f => cases f <;> simp [settle_throw, settle_refuse_ne]
  | none =>
      rw [Option.getD_none, Text.Utf8.encode]
      cases w.files.write name (j.render Config.layout).toUTF8.toList with
      | ok files => simp [settle_pure, eq_comm]
      | error f => cases f <;> simp [settle_throw, settle_refuse_ne]

/-! ## The parts of a configuration's making -/

/-- The configuration that settings of the command line are put into. -/
def base : Option String → Session (StateM Surroundings) Config
  | none => pure .standard
  | some name => loadConfig name

/-- The check of the command line's rate. -/
def checkRate : Options.Setting Number → Session (StateM Surroundings) Unit
  | .hollow => throw (.failure (.hollow .rate))
  | .given hz => if hz.isNegative then Session.refuse "--rate must be >= 0" else pure ()
  | .unset => pure ()

/-- Saves a value, if it is asked for. -/
def save : Option String → Json → Session (StateM Surroundings) Unit
  | none, _ => pure ()
  | some name, j => saveConfig name j

theorem configure_eq (r : RunRequest) :
    configure r = (do
      let b ← base r.config
      checkRate r.overrides.rate
      save r.saveConfig (r.overrides.describe (r.overrides.apply b))
      return r.overrides.apply b : Session (StateM Surroundings) Config) := by
  unfold configure
  -- The makings of a value come down to what follows them, once all three are known.
  cases r.config <;> cases r.overrides.rate <;> cases r.saveConfig
  case none.given.none hz | none.given.some hz _ | some.given.none _ hz
      | some.given.some _ hz _ =>
    cases hneg : hz.isNegative <;> simp only [checkRate, hneg] <;> rfl
  all_goals rfl

/-- A rate of the command line is a number that is not negative. -/
def RateAllowed : Options.Setting Number → Prop
  | .hollow => False
  | .given hz => hz.isNegative = false
  | .unset => True

/-- What is to be saved is saved. -/
def SavesTo : Option String → Json → Surroundings → Surroundings → Prop
  | none, _, w, w' => w' = w
  | some name, j, w, w' => Saves name j w w'

theorem settle_base {o : Option String} :
    settle (base o) w = (.ok c, w') ↔ Loads w o c ∧ w' = w := by
  cases o with
  | none => simp [base, Loads, settle_pure, eq_comm]
  | some name => exact settle_loadConfig

theorem settle_checkRate {s : Options.Setting Number} {u : Unit} :
    settle (checkRate s) w = (.ok u, w') ↔ RateAllowed s ∧ w' = w := by
  cases s with
  | unset => simp [checkRate, RateAllowed, settle_pure, eq_comm]
  | hollow => simp [checkRate, RateAllowed, settle_throw]
  | given hz =>
      simp only [checkRate, RateAllowed]
      cases hz.isNegative with
      | false => simp [settle_pure, eq_comm]
      | true => simp [settle_refuse_ne]

theorem settle_save {o : Option String} {u : Unit} :
    settle (save o j) w = (.ok u, w') ↔ SavesTo o j w w' := by
  cases o with
  | none => simp [save, SavesTo, settle_pure, eq_comm]
  | some name => exact settle_saveConfig

/-- A run comes to this configuration and leaves these surroundings. -/
theorem settle_configure :
    settle (configure r) w = (.ok c, w') ↔
      ∃ b, Loads w r.config b ∧ RateAllowed r.overrides.rate ∧
        c = r.overrides.apply b ∧ SavesTo r.saveConfig (r.overrides.describe c) w w' := by
  rw [configure_eq]
  simp only [settle_bind_eq_ok_iff, settle_base, settle_checkRate, settle_save, settle_pure]
  constructor
  · rintro ⟨b, _, ⟨hb, rfl⟩, _, _, ⟨hrate, rfl⟩, _, _, hsave, h⟩
    cases h
    exact ⟨b, hb, hrate, rfl, hsave⟩
  · rintro ⟨b, hb, hrate, rfl, hsave⟩
    exact ⟨b, _, ⟨hb, rfl⟩, (), _, ⟨hrate, rfl⟩, (), _, hsave, rfl⟩

end Console

end ChipEight
