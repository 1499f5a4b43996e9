import ChipEight.Proofs.Config.Saved
import ChipEight.Proofs.Console.Configure
import ChipEight.Proofs.Console.Request

/-!
# The settings a run comes to

A setting is what the command line says last, or else what the configuration file says, or else
the default. Settings of the command line are put into a configuration that was checked before,
and nothing is checked again; but the readers of the options let pass no more than the checks do,
and so what comes of it passes the checks, and is what a run comes to that is given the saved
file and no settings of its own.

There is one exception. The separator in the place of a value, as in `--max-cycles=--`, is handed
on without being read. Such a hollow setting is no integer and not absent either: the checks
refuse it, and with it the file it was saved in.
-/

namespace ChipEight

open Options (Handed Setting lastGiven?)

/-! ## Settings as they are saved -/

namespace Overrides

variable {o : Overrides} {b c c' : Config}

/-- The value that is saved of a setting. -/
def saved {α : Type} (s : Setting α) (v : Json) : Json := if s.isHollow then .array [] else v

/-- The members that are saved of a configuration with settings in it. -/
def members (o : Overrides) (c : Config) : Json.Members :=
  c.membersWith (saved o.maxCycles (Config.ofOption (c.maxCycles.map Int.ofNat)))
    (saved o.seed (Config.ofOption c.seed))

theorem describe_eq (o : Overrides) (c : Config) : o.describe c = .object (o.members c) := by
  rw [describe, Config.toJson_eq]
  unfold members saved
  cases o.maxCycles.isHollow <;> cases o.seed.isHollow <;> rfl

/-- Neither the limit nor the seed is hollow. -/
def Solid (o : Overrides) : Prop := o.maxCycles.isHollow = false ∧ o.seed.isHollow = false

theorem members_of_solid (h : o.Solid) : o.members c = c.members := by
  rw [members, saved, saved, h.1, h.2]
  rfl

theorem setting_maxCycles {limit seed : Json} {α : Type} {missing : α}
    {read : Json → Except Config.Fault α} :
    Config.setting (c.membersWith limit seed) "max_cycles" missing read = read limit := rfl

theorem setting_seed {limit seed : Json} {α : Type} {missing : α}
    {read : Json → Except Config.Fault α} :
    Config.setting (c.membersWith limit seed) "seed" missing read = read seed := rfl

theorem isHollow_of_read {α β : Type} {s : Setting α} {v : Json} {x : β}
    {read : Json → Except Config.Fault β} (hrefuses : ∀ x, read (.array []) ≠ .ok x)
    (h : read (saved s v) = .ok x) : s.isHollow = false := by
  cases hhollow : s.isHollow with
  | false => rfl
  | true =>
      rw [saved, hhollow] at h
      exact absurd h (hrefuses x)

theorem solid_of_ofMembers (h : Config.ofMembers (o.members c) = .ok c') : o.Solid := by
  obtain ⟨-, -, hlimit, hseed, -, -⟩ := Config.ofMembers_eq_ok_iff.1 h
  rw [members, setting_maxCycles] at hlimit
  rw [members, setting_seed] at hseed
  exact ⟨isHollow_of_read nofun hlimit, isHollow_of_read nofun hseed⟩

/-- The checks let pass what is saved exactly if no setting is hollow, and then as it is. -/
theorem ofMembers_members_iff (hc : c.Valid) :
    Config.ofMembers (o.members c) = .ok c' ↔ o.Solid ∧ c' = c := by
  constructor
  · intro h
    have hsolid := solid_of_ofMembers h
    rw [members_of_solid hsolid, Config.ofMembers_members hc] at h
    exact ⟨hsolid, (Except.ok.inj h).symm⟩
  · rintro ⟨hsolid, rfl⟩
    rw [members_of_solid hsolid, Config.ofMembers_members hc]

theorem readable_saved {α : Type} {s : Setting α} {v : Option Int} {l : Json.Layout}
    {depth room : Nat} (h : Json.cutValue? l depth (saved s (Config.ofOption v)) = none) :
    Json.Readable (room + 1) (saved s (Config.ofOption v)) := by
  unfold saved at h ⊢
  cases hhollow : s.isHollow with
  | true => exact .array nofun
  | false =>
      rw [hhollow] at h
      exact Config.readable_ofOption (Config.cutValue?_ofOption_eq_none_iff.1 h)

/-- What was saved in full is read as the members it was written of. -/
theorem ofContents_describe {room : Nat} (hroom : 2 ≤ room) (hc : c.Valid)
    (hreals : c.RealsReadBack)
    (hcut : (o.describe c).textBeforeTooLong? Config.layout = none) (path : String) :
    Config.ofContents room path (Text.Utf8.encode ((o.describe c).render Config.layout)) =
      Config.ofMembers (o.members c) := by
  rw [describe_eq, Json.textBeforeTooLong?, Option.map_eq_none_iff, members,
    Config.cutValue?_membersWith_eq_none_iff] at hcut
  obtain ⟨hrate, hlimit, hseed, hhold⟩ := hcut
  obtain ⟨inner, rfl⟩ : ∃ inner, room = inner + 2 := ⟨room - 2, by omega⟩
  rw [describe_eq]
  exact Config.ofContents_render (Config.readable_membersWith hc.keymap hreals hrate hhold
    (readable_saved hlimit) (readable_saved hseed)) path

/-! ## Putting settings in their place -/

theorem valid_apply (hb : b.Valid) (hrate : Console.RateAllowed o.rate) : (o.apply b).Valid where
  rate := by
    cases hset : o.rate with
    | given hz =>
        rw [hset] at hrate
        simpa [apply, hset, Setting.value?] using Number.isNegative_eq_false_iff.1 hrate
    | unset => simpa [apply, hset, Setting.value?] using hb.rate
    | hollow => simpa [apply, hset, Setting.value?] using hb.rate
  keyHold := hb.keyHold
  keymap := hb.keymap

theorem seed_apply (o : Overrides) (b : Config) :
    (o.apply b).seed = (o.seed.value?.map fun n : Nat => some (n : Int)).getD b.seed := by
  unfold apply
  cases o.seed <;> rfl

theorem apply_none (c : Config) : ({} : Overrides).apply c = c := rfl

end Overrides

/-! ## Where a setting comes from -/

namespace Console

open Session (settle)

/-- A setting is what the option came with last, or else what is said elsewhere. Nothing is said
of an option without a value. -/
def Chosen {α β : Type} (label : String) (read : String → Except String β) (f : β → α)
    (Elsewhere : α → Prop) (hs : List Handed) (x : α) : Prop :=
  match lastGiven? label hs with
  | none => Elsewhere x
  | some values => ∀ text ∈ values.head?, ∃ b, read text = .ok b ∧ x = f b

/-- The options and the members of a file come to this configuration. -/
structure Chooses (hs : List Handed) (written : Json.Members) (c : Config) : Prop where
  rate : Chosen "--rate" real id
    (Config.Sets written "rate_hz" (.whole 120000) Config.IsRate) hs c.rate
  rateGiven : lastGiven? "--rate" hs ≠ some []
  maxCycles : Chosen "--max-cycles" natural some
    (Config.Sets written "max_cycles" none Config.IsLimit) hs c.maxCycles
  seed : Chosen "--seed" natural (fun n => some (n : Int))
    (Config.Sets written "seed" none Config.IsSeed) hs c.seed
  keyHold : Config.Sets written "key_hold" (.real 0.15) Config.IsHold c.keyHold
  keymap : Config.Sets written "keymap" Config.standard.keymap Config.IsKeymap c.keymap

/-- The members that the configuration file of these surroundings writes. Without a file there are
none. -/
def Writes (w : Surroundings) : Option String → Json.Members → Prop
  | none, written => written = []
  | some name, written => ∃ bytes cs, w.files.read name = .ok bytes ∧
      Text.Utf8.decode bytes = .ok cs ∧
      Json.DenotesObject w.room (String.ofList (Text.unifyNewlines cs)) written

variable {args : List String} {hs : List Handed} {r : RunRequest} {w w' : Surroundings}
  {b c : Config}

theorem chosen_of_reads {α β : Type} {label : String} {read : String → Except String β}
    {f : β → α} {Elsewhere : α → Prop} {s : Setting β} {x : α} (h : s.Reads read label hs)
    (hx : Elsewhere x) : Chosen label read f Elsewhere hs ((s.value?.map f).getD x) := by
  unfold Setting.Reads at h
  unfold Chosen
  cases hgiven : lastGiven? label hs with
  | none =>
      rw [hgiven] at h
      subst h
      exact hx
  | some values =>
      rw [hgiven] at h
      rintro text htext
      cases values with
      | nil => cases htext
      | cons first rest =>
          cases htext
          obtain ⟨v, hv, rfl⟩ := map_eq_ok h
          exact ⟨v, hv, rfl⟩

theorem isHollow_eq_false_iff {α : Type} {read : String → Except String α} {label : String}
    {s : Setting α} (h : s.Reads read label hs) :
    s.isHollow = false ↔ lastGiven? label hs ≠ some [] := by
  unfold Setting.Reads at h
  cases hgiven : lastGiven? label hs with
  | none =>
      rw [hgiven] at h
      simp [h, Setting.isHollow]
  | some values =>
      rw [hgiven] at h
      cases values with
      | nil =>
          cases h
          simp [Setting.isHollow]
      | cons first rest =>
          obtain ⟨v, -, rfl⟩ := map_eq_ok h
          simp [Setting.isHollow]

theorem RateAllowed.isHollow {s : Setting Number} (h : RateAllowed s) : s.isHollow = false := by
  cases s with
  | hollow => cases h
  | _ => rfl

theorem describes_of_loads {o : Option String} (h : Loads w o b) :
    b.Valid ∧ ∃ written, Writes w o written ∧ Config.Describes written b := by
  cases o with
  | none =>
      cases h
      exact ⟨Config.valid_standard, [], rfl, Config.describes_standard⟩
  | some name =>
      obtain ⟨bytes, hread, hb⟩ := h
      unfold Config.ofContents at hb
      split at hb
      · cases hb
      · next cs hcs =>
          obtain ⟨written, hwritten, hdescribes⟩ := Config.ofText_eq_ok_iff_describes.1 hb
          exact ⟨(Config.valid_and_short_of_ofText hb).1, written,
            ⟨bytes, cs, hread, hcs, hwritten⟩, hdescribes⟩

theorem chooses_apply {written : Json.Members} (hr : r.Reads hs)
    (hrate : RateAllowed r.overrides.rate) (hb : Config.Describes written b) :
    Chooses hs written (r.overrides.apply b) where
  rate := by
    have h := chosen_of_reads (f := id) hr.rate hb.rate
    rwa [Option.map_id] at h
  rateGiven := (isHollow_eq_false_iff hr.rate).1 hrate.isHollow
  maxCycles := chosen_of_reads hr.maxCycles hb.maxCycles
  seed := by
    rw [Overrides.seed_apply]
    exact chosen_of_reads hr.seed hb.seed
  keyHold := hb.keyHold
  keymap := hb.keymap

/-! ## What is saved is loaded again -/

/-- A run of the saved file, with no settings of its own. -/
structure Repeats (name : String) (r : RunRequest) : Prop where
  config : r.config = some name
  overrides : r.overrides = {}
  saveConfig : r.saveConfig = none

/-- The saved file is loaded exactly if no setting is hollow, and as what was saved. -/
theorem settle_of_saves {o : Overrides} {name : String} (hc : c.Valid)
    (hreals : c.RealsReadBack) (hsaves : Saves name (o.describe c) w w')
    {r : RunRequest} (hr : Repeats name r) {w₁ w₂ : Surroundings} (hroom : 2 ≤ w₁.room)
    (hfile : w₁.files.read name = w'.files.read name) {c' : Config} :
    settle (configure r) w₁ = (.ok c', w₂) ↔ o.Solid ∧ c' = c ∧ w₂ = w₁ := by
  obtain ⟨hcut, files, hwrite, rfl⟩ := hsaves
  have hread := hfile.trans (Files.read_write hwrite)
  have hloads {b : Config} : Loads w₁ (some name) b ↔ o.Solid ∧ b = c := by
    simp only [Loads, hread, Except.ok.injEq, exists_eq_left']
    rw [Overrides.ofContents_describe hroom hc hreals hcut, Overrides.ofMembers_members_iff hc]
  obtain ⟨hconfig, hoverrides, hsave⟩ := hr
  rw [settle_configure, hconfig, hoverrides, hsave]
  simp only [hloads, SavesTo, Overrides.apply_none]
  constructor
  · rintro ⟨b, ⟨hsolid, rfl⟩, -, rfl, rfl⟩
    exact ⟨hsolid, rfl, rfl⟩
  · rintro ⟨hsolid, rfl, rfl⟩
    exact ⟨_, ⟨hsolid, rfl⟩, trivial, rfl, rfl⟩

theorem valid_of_settle (hc : settle (configure r) w = (.ok c, w')) : c.Valid := by
  obtain ⟨b, hb, hrate, rfl, -⟩ := settle_configure.1 hc
  exact Overrides.valid_apply (describes_of_loads hb).1 hrate

/-- Coming to a configuration changes files alone. -/
theorem room_eq_of_settle (hc : settle (configure r) w = (.ok c, w')) : w'.room = w.room := by
  obtain ⟨-, -, -, -, hsave⟩ := settle_configure.1 hc
  cases hname : r.saveConfig with
  | none =>
      rw [hname] at hsave
      exact congrArg Surroundings.room hsave
  | some name =>
      rw [hname] at hsave
      obtain ⟨-, files, -, rfl⟩ := hsave
      rfl

theorem saves_of_settle {name : String} (hc : settle (configure r) w = (.ok c, w'))
    (hname : r.saveConfig = some name) : Saves name (r.overrides.describe c) w w' := by
  obtain ⟨-, -, -, -, hsave⟩ := settle_configure.1 hc
  rwa [hname] at hsave

/-! ## Carrying a command line out -/

/-- Whether the checks let pass what would be saved of a configuration. -/
def passes (r : RunRequest) (c : Config) : Bool :=
  (Config.ofMembers (r.overrides.members c)).toBool

theorem exists_of_passes (h : passes r c = true) :
    ∃ c', Config.ofMembers (r.overrides.members c) = .ok c' := by
  unfold passes at h
  cases hc : Config.ofMembers (r.overrides.members c) with
  | error f =>
      rw [hc] at h
      cases h
  | ok c' => exact ⟨c', rfl⟩

/-- Whether a command line asks for a run that comes to a configuration of this kind. -/
def comesTo (args : List String) (w : Surroundings) (p : RunRequest → Config → Bool) : Bool :=
  match request args with
  | .ok (.run r) =>
      match settle (configure r) w with
      | (.ok c, _) => p r c
      | (.error _, _) => false
  | _ => false

theorem exists_of_comesTo {p : RunRequest → Config → Bool} (h : comesTo args w p = true) :
    ∃ r c w', request args = .ok (.run r) ∧ settle (configure r) w = (.ok c, w') ∧
      p r c = true := by
  unfold comesTo at h
  split at h
  · next r hr =>
      split at h
      · next c w' hc => exact ⟨r, c, w', hr, hc, h⟩
      · cases h
  · cases h

/-- Whether two numbers are the same, in value and kind. -/
def same : Number → Number → Bool
  | .whole m, .whole n => decide (m = n)
  | .real x, .real y => decide (x = y)
  | _, _ => false

theorem eq_of_same {m n : Number} (h : same m n = true) : m = n := by
  cases m <;> cases n <;> simp_all [same]

theorem realsReadBack_of_same {rate hold : Number} (hrate : c.rate = rate)
    (hhold : c.keyHold = hold)
    (h : ∀ x, Number.real x = rate ∨ Number.real x = hold →
      Json.parse 0 (Json.realStyle.text x) = .ok (.number (.real x))) : c.RealsReadBack := by
  rintro x negative m e hx -
  rw [hrate, hhold] at hx
  exact h x hx

/-- A configuration file and nothing else. -/
def desk : Surroundings where
  files.entries := [(["c.json"],
    .file (Text.Utf8.encode "\x7b\"rate_hz\": 5, \"seed\": 7, \"key_hold\": 0.5\x7d"))]

/-- Every option is given, and every value is zero. -/
def allZero : List String := ["run", "p.ch8", "--config=c.json", "--rate=0", "--max-cycles=0",
  "--seed=0x0", "--save-config=out.json"]

/-! ## The settings of a run -/

/-- Neither the limit nor the seed was last given without a value. -/
def NoneHollow (hs : List Handed) : Prop :=
  lastGiven? "--max-cycles" hs ≠ some [] ∧ lastGiven? "--seed" hs ≠ some []

/-- What a run comes to is chosen setting by setting. It passes the checks of a configuration as it
is exactly if no setting is hollow; and so does a run of the saved file come to it, wherever there
is room for the two containers in that file. -/
theorem effective_settings (hrequest : request args = .ok (.run r))
    (hc : settle (configure r) w = (.ok c, w')) :
    ∃ hs written, RunOptions args hs ∧
      Writes w ((lastGiven? "--config" hs).bind Options.nonempty?) written ∧
      Chooses hs written c ∧
      (∃ ms, r.overrides.describe c = .object ms ∧
        ∀ c', Config.ofMembers ms = .ok c' ↔ NoneHollow hs ∧ c' = c) ∧
      (c.RealsReadBack → ∀ name, r.saveConfig = some name → ∀ r' w₁, Repeats name r' →
        w₁.files.read name = w'.files.read name → 2 ≤ w₁.room →
        ∀ c' w₂, settle (configure r') w₁ = (.ok c', w₂) ↔
          NoneHollow hs ∧ c' = c ∧ w₂ = w₁) := by
  obtain ⟨hs, hrun, hreads⟩ := request_eq_ok hrequest
  have hvalid := valid_of_settle hc
  have hsaves (name : String) (h : r.saveConfig = some name) := saves_of_settle hc h
  obtain ⟨b, hb, hrate, rfl, -⟩ := settle_configure.1 hc
  obtain ⟨-, written, hwritten, hdescribes⟩ := describes_of_loads hb
  have hsolid : r.overrides.Solid ↔ NoneHollow hs :=
    and_congr (isHollow_eq_false_iff hreads.maxCycles) (isHollow_eq_false_iff hreads.seed)
  refine ⟨hs, written, hrun, hreads.config ▸ hwritten, chooses_apply hreads hrate hdescribes,
    ⟨_, Overrides.describe_eq _ _, fun c' => ?_⟩, ?_⟩
  · rw [Overrides.ofMembers_members_iff hvalid, hsolid]
  · intro hreals name hname r' w₁ hr' hfile hroom c' w₂
    rw [settle_of_saves hvalid hreals (hsaves name hname) hr' hroom hfile, hsolid]

theorem effective_settings_all_zero :
    ∃ r c w', request allZero = .ok (.run r) ∧ settle (configure r) desk = (.ok c, w') ∧
      c.rate = .real 0.0 ∧ c.maxCycles = some 0 ∧ c.seed = some 0 ∧ c.keyHold = .real 0.5 ∧
      (∃ ms, r.overrides.describe c = .object ms ∧ Config.ofMembers ms = .ok c) ∧
      settle (configure { config := some "out.json" }) w' = (.ok c, w') := by
  have hcomes : comesTo allZero desk (fun r c => passes r c &&
      decide (r.saveConfig = some "out.json") && same c.rate (.real 0.0) &&
      decide (c.maxCycles = some 0 ∧ c.seed = some 0) && same c.keyHold (.real 0.5)) = true := by
    decide +kernel
  obtain ⟨r, c, w', hr, hc, hkind⟩ := exists_of_comesTo hcomes
  simp only [Bool.and_eq_true, decide_eq_true_eq] at hkind
  obtain ⟨⟨⟨⟨hpasses, hname⟩, hrate⟩, hlimit, hseed⟩, hhold⟩ := hkind
  have hrate := eq_of_same hrate
  have hhold := eq_of_same hhold
  have hreals : c.RealsReadBack := by
    refine realsReadBack_of_same hrate hhold ?_
    rintro x (h | h) <;> cases h <;> exact Config.parse_text_of_reads (by decide +kernel)
  obtain ⟨hs, written, -, -, -, ⟨ms, hms, hchecks⟩, hagain⟩ := effective_settings hr hc
  have hsolid : NoneHollow hs := by
    rw [Overrides.describe_eq] at hms
    cases hms
    obtain ⟨c', hc'⟩ := exists_of_passes hpasses
    exact ((hchecks c').1 hc').1
  have hroom : 2 ≤ w'.room := by
    rw [room_eq_of_settle hc]
    decide
  exact ⟨r, c, w', hr, hc, hrate, hlimit, hseed, hhold,
    ⟨ms, hms, (hchecks c).2 ⟨hsolid, rfl⟩⟩,
    (hagain hreals "out.json" hname _ w' ⟨rfl, rfl, rfl⟩ rfl hroom c w').2 ⟨hsolid, rfl, rfl⟩⟩

/-- The separator stands in the place of the limit. -/
def hollowLimit : List String :=
  ["run", "p.ch8", "--headless", "--max-cycles=--", "--save-config", "out.json"]

/-- The separator in the place of a limit is accepted, and comes to settings that the checks
refuse; and so they do when the saved file is given to a later run. -/
theorem hollow_limit_accepted :
    ∃ r c w', request hollowLimit = .ok (.run r) ∧ settle (configure r) {} = (.ok c, w') ∧
      (∃ ms, r.overrides.describe c = .object ms ∧ ∀ c', Config.ofMembers ms ≠ .ok c') ∧
      ∀ r' c' w₂, Repeats "out.json" r' → settle (configure r') w' ≠ (.ok c', w₂) := by
  have hcomes : comesTo hollowLimit {} (fun r c => r.overrides.maxCycles.isHollow &&
      decide (r.saveConfig = some "out.json") && same c.rate (.whole 120000) &&
      same c.keyHold (.real 0.15)) = true := by
    decide +kernel
  obtain ⟨r, c, w', hr, hc, hkind⟩ := exists_of_comesTo hcomes
  simp only [Bool.and_eq_true, decide_eq_true_eq] at hkind
  obtain ⟨⟨⟨hhollow, hname⟩, hrate⟩, hhold⟩ := hkind
  have hreals : c.RealsReadBack := by
    refine realsReadBack_of_same (eq_of_same hrate) (eq_of_same hhold) ?_
    rintro x (h | h) <;> cases h
    exact Config.parse_text_of_reads (by decide +kernel)
  have hsolid : ¬r.overrides.Solid := by
    rw [Overrides.Solid, hhollow]
    exact fun h => nomatch h.1
  have hsaves := saves_of_settle hc hname
  have hvalid := valid_of_settle hc
  have hroom : 2 ≤ w'.room := by
    rw [room_eq_of_settle hc]
    decide
  refine ⟨r, c, w', hr, hc, ⟨_, Overrides.describe_eq _ _, fun c' hpasses => ?_⟩, ?_⟩
  · exact hsolid (Overrides.solid_of_ofMembers hpasses)
  · intro r' c' w₂ hr' hloads
    exact hsolid ((settle_of_saves hvalid hreals hsaves hr' hroom rfl).1 hloads).1

end Console

end ChipEight
