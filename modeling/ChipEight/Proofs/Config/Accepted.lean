import ChipEight.Config
import ChipEight.Proofs.Json.Members
import ChipEight.Proofs.Numeral.Parts

/-!
# Which texts are configurations

A text is a configuration exactly if it writes an object that describes one: all its members
have names of settings, and the last member of a name says what the setting is. What a member
may say is stated here as a relation for each setting, without the checks, which all ask for
the opposite: a rate is refused if it is less than zero. A number that is no number in the
sense of comparisons therefore passes, and it is the one rate that passes without being zero
or more.
-/

namespace ChipEight.Config

open Json (Members)
open Text (CodePoint Points)

/-! ## What a member says -/

/-- The value is this rate. -/
def IsRate (v : Json) (rate : Number) : Prop := v = .number rate ∧ (rate.IsNan ∨ 0 ≤ rate)

/-- The value is this hold. -/
def IsHold (v : Json) (hold : Number) : Prop := v = .number hold ∧ (hold.IsNan ∨ 0 < hold)

/-- The value is this limit, or says that there is none. -/
def IsLimit (v : Json) (limit : Option Nat) : Prop :=
  v = .null ∧ limit = none ∨ ∃ n : Nat, v = Json.int n ∧ limit = some n

/-- The value is this seed, or says that there is none. -/
def IsSeed (v : Json) (seed : Option Int) : Prop :=
  v = .null ∧ seed = none ∨ ∃ n, v = Json.int n ∧ seed = some n

/-- The member assigns this key to this code point. -/
def IsEntry (m : Points × Json) (entry : CodePoint × Fin 16) : Prop :=
  m.1 = [entry.1] ∧ m.2 = Json.int entry.2.val

/-- The value is this key map, in this order. -/
def IsKeymap (v : Json) (keymap : List (CodePoint × Fin 16)) : Prop :=
  ∃ ms, v = .object ms ∧ List.Forall₂ IsEntry ms keymap

/-- The setting is what the last member of its name says, or its default. -/
def Sets {α : Type} (written : Members) (name : Points) (missing : α) (Says : Json → α → Prop)
    (x : α) : Prop :=
  match written.last? name with
  | none => x = missing
  | some v => Says v x

/-- The members of a text describe a configuration. -/
structure Describes (written : Members) (c : Config) : Prop where
  known : ∀ m ∈ written,
    m.1 ∈ ["rate_hz", "max_cycles", "seed", "key_hold", "keymap"].map Text.points
  rate : Sets written "rate_hz" (.whole 120000) IsRate c.rate
  maxCycles : Sets written "max_cycles" none IsLimit c.maxCycles
  seed : Sets written "seed" none IsSeed c.seed
  keyHold : Sets written "key_hold" (.real 0.15) IsHold c.keyHold
  keymap : Sets written "keymap" standard.keymap IsKeymap c.keymap

/-! ## What a check lets pass -/

theorem rate?_eq_ok_iff {v : Json} {rate : Number} : rate? v = .ok rate ↔ IsRate v rate := by
  unfold rate? IsRate
  split
  · rw [ite_eq_ok_iff, Json.number.injEq, ← Number.isNegative_eq_false_iff]
    exact and_congr_right (by rintro rfl; rfl)
  · next hother => exact iff_of_false nofun fun h => hother _ h.1

theorem keyHold?_eq_ok_iff {v : Json} {hold : Number} :
    keyHold? v = .ok hold ↔ IsHold v hold := by
  unfold keyHold? IsHold
  split
  · rw [ite_eq_ok_iff, Json.number.injEq, ← Number.isNotAboveZero_eq_false_iff]
    exact and_congr_right (by rintro rfl; rfl)
  · next hother => exact iff_of_false nofun fun h => hother _ h.1

theorem maxCycles?_eq_ok_iff {v : Json} {limit : Option Nat} :
    maxCycles? v = .ok limit ↔ IsLimit v limit := by
  unfold maxCycles? IsLimit
  split
  · simp [Json.int, eq_comm]
  · next n =>
      constructor
      · intro h
        split at h
        · next hn =>
            cases h
            exact .inr ⟨n.toNat, by rw [Json.int, Int.toNat_of_nonneg hn], rfl⟩
        · cases h
      · rintro (⟨⟨⟩, -⟩ | ⟨m, hm, rfl⟩)
        cases hm
        exact if_pos (Int.natCast_nonneg m)
  · next hnull hother =>
      refine iff_of_false nofun ?_
      rintro (⟨rfl, -⟩ | ⟨n, rfl, -⟩)
      · exact hnull rfl
      · exact hother _ rfl

theorem seed?_eq_ok_iff {v : Json} {seed : Option Int} : seed? v = .ok seed ↔ IsSeed v seed := by
  unfold seed? IsSeed
  split
  · simp [Json.int, eq_comm]
  · simp [Json.int, eq_comm]
  · next hnull hother =>
      refine iff_of_false nofun ?_
      rintro (⟨rfl, -⟩ | ⟨n, rfl, -⟩)
      · exact hnull rfl
      · exact hother _ rfl

theorem keymapEntry?_eq_ok_iff {m : Points × Json} {entry : CodePoint × Fin 16} :
    keymapEntry? m.1 m.2 = .ok entry ↔ IsEntry m entry := by
  obtain ⟨name, v⟩ := m
  obtain ⟨p, key⟩ := entry
  unfold keymapEntry? IsEntry
  simp only
  split
  · next q n =>
      split
      · next h =>
          simp only [Except.ok.injEq, Prod.mk.injEq, Fin.ext_iff, List.cons.injEq, and_true,
            Json.int, Json.number.injEq, Number.whole.injEq]
          exact and_congr_right fun _ => by omega
      · next h =>
          refine iff_of_false nofun ?_
          rintro ⟨-, hn⟩
          cases hn
          omega
  · next hother =>
      refine iff_of_false nofun ?_
      rintro ⟨rfl, rfl⟩
      exact hother p key.val rfl rfl

theorem keymap?_eq_ok_iff {v : Json} {keymap : List (CodePoint × Fin 16)} :
    keymap? v = .ok keymap ↔ IsKeymap v keymap := by
  unfold keymap? IsKeymap
  split
  · next ms =>
      simp only [Json.object.injEq, exists_eq_left', mapM_eq_ok_iff, keymapEntry?_eq_ok_iff]
  · next hother =>
      refine iff_of_false nofun ?_
      rintro ⟨ms, rfl, -⟩
      exact hother _ rfl

theorem setting_eq_ok_iff {α : Type} {written : Members} {name : Points} {missing x : α}
    {read : Json → Except Fault α} {Says : Json → α → Prop}
    (h : ∀ {v x}, read v = .ok x ↔ Says v x) :
    setting (Members.collect written) name missing read = .ok x ↔
      Sets written name missing Says x := by
  rw [setting, Members.lookup_collect, Sets]
  cases written.last? name with
  | none => simp [eq_comm]
  | some v => exact h

/-! ## What the checks together let pass -/

theorem isEmpty_unknown_iff {ms : Members} :
    ((ms.map Prod.fst).filter fun n => !names.contains n).isEmpty = true ↔
      ∀ m ∈ ms, m.1 ∈ names := by
  simp [List.isEmpty_iff, List.filter_eq_nil_iff]

theorem ofMembers_eq_ok_iff {ms : Members} {c : Config} :
    ofMembers ms = .ok c ↔
      (∀ m ∈ ms, m.1 ∈ names) ∧
        setting ms "rate_hz" standard.rate rate? = .ok c.rate ∧
        setting ms "max_cycles" standard.maxCycles maxCycles? = .ok c.maxCycles ∧
        setting ms "seed" standard.seed seed? = .ok c.seed ∧
        setting ms "key_hold" standard.keyHold keyHold? = .ok c.keyHold ∧
        setting ms "keymap" standard.keymap keymap? = .ok c.keymap := by
  unfold ofMembers
  rw [← isEmpty_unknown_iff]
  generalize ((ms.map Prod.fst).filter fun n => !names.contains n) = unknown
  cases hunknown : unknown.isEmpty with
  | false =>
      simp only [hunknown]
      exact iff_of_false nofun fun h => nomatch h.1
  | true =>
      simp only [hunknown, true_and]
      constructor
      · intro h
        obtain ⟨rate, hrate, h⟩ := bind_eq_ok h
        obtain ⟨limit, hlimit, h⟩ := bind_eq_ok h
        obtain ⟨seed, hseed, h⟩ := bind_eq_ok h
        obtain ⟨hold, hhold, h⟩ := bind_eq_ok h
        obtain ⟨keymap, hkeymap, h⟩ := bind_eq_ok h
        cases h
        exact ⟨hrate, hlimit, hseed, hhold, hkeymap⟩
      · rintro ⟨hrate, hlimit, hseed, hhold, hkeymap⟩
        simp only [hrate, hlimit, hseed, hhold, hkeymap]
        rfl

theorem ofMembers_collect_iff {written : Members} {c : Config} :
    ofMembers (Members.collect written) = .ok c ↔ Describes written c := by
  have hnames : (∀ m ∈ Members.collect written, m.1 ∈ names) ↔ ∀ m ∈ written, m.1 ∈ names := by
    rw [← List.forall_mem_map (f := Prod.fst) (P := (· ∈ names)),
      ← List.forall_mem_map (f := Prod.fst) (P := (· ∈ names))]
    exact forall_congr' fun name => by rw [Members.mem_map_fst_collect]
  rw [ofMembers_eq_ok_iff, hnames, setting_eq_ok_iff rate?_eq_ok_iff,
    setting_eq_ok_iff maxCycles?_eq_ok_iff, setting_eq_ok_iff seed?_eq_ok_iff,
    setting_eq_ok_iff keyHold?_eq_ok_iff, setting_eq_ok_iff keymap?_eq_ok_iff]
  exact ⟨fun ⟨hknown, hrate, hlimit, hseed, hhold, hkeymap⟩ =>
    ⟨hknown, hrate, hlimit, hseed, hhold, hkeymap⟩,
    fun h => ⟨h.known, h.rate, h.maxCycles, h.seed, h.keyHold, h.keymap⟩⟩

theorem ofText_eq_ok {room : Nat} {path text : String} {c : Config}
    (h : ofText room path text = .ok c) :
    ∃ ms, Json.parse room text = .ok (.object ms) ∧ ofMembers ms = .ok c := by
  unfold ofText at h
  split at h
  · cases h
  · exact ⟨_, ‹_›, h⟩
  · cases h

theorem ofText_eq_ok_iff_describes {room : Nat} {path text : String} {c : Config} :
    ofText room path text = .ok c ↔
      ∃ written, Json.DenotesObject room text written ∧ Describes written c := by
  constructor
  · intro h
    obtain ⟨ms, hparse, hms⟩ := ofText_eq_ok h
    obtain ⟨written, hwritten, rfl⟩ :=
      Json.denotes_object_iff.1 (Json.parse_eq_ok_iff.1 hparse)
    exact ⟨written, hwritten, ofMembers_collect_iff.1 hms⟩
  · rintro ⟨written, hwritten, hc⟩
    have hparse := Json.parse_eq_ok_iff.2 (Json.denotes_object_iff.2 ⟨written, hwritten, rfl⟩)
    rw [ofText, hparse]
    exact ofMembers_collect_iff.2 hc

/-! ## What a description grants -/

theorem Sets.eq_or_says {α : Type} {written : Members} {name : Points} {missing x : α}
    {Says : Json → α → Prop} (h : Sets written name missing Says x) :
    x = missing ∨ ∃ v, written.last? name = some v ∧ Says v x := by
  unfold Sets at h
  split at h
  · exact .inl h
  · next v hv => exact .inr ⟨v, hv, h⟩

theorem Describes.rate_nonneg {written : Members} {c : Config} (h : Describes written c) :
    c.rate.IsNan ∨ 0 ≤ c.rate := by
  obtain hrate | ⟨v, -, -, hrate⟩ := h.rate.eq_or_says
  · exact .inr (hrate ▸ by decide)
  · exact hrate

theorem Describes.keyHold_pos {written : Members} {c : Config} (h : Describes written c) :
    c.keyHold.IsNan ∨ 0 < c.keyHold := by
  obtain hhold | ⟨v, -, -, hhold⟩ := h.keyHold.eq_or_says
  · exact .inr (hhold ▸ by decide +kernel)
  · exact hhold

/-- A text is a configuration exactly if it describes it, with room for its containers. Of every
configuration that is read the rate is zero or more and the hold is greater than zero, NaN
apart. -/
theorem ofText_eq_ok_iff (room : Nat) (path text : String) (c : Config) :
    (ofText room path text = .ok c ↔
      ∃ written, Json.DenotesObject room text written ∧ Describes written c) ∧
    (ofText room path text = .ok c →
      (c.rate.IsNan ∨ 0 ≤ c.rate) ∧ (c.keyHold.IsNan ∨ 0 < c.keyHold)) := by
  refine ⟨ofText_eq_ok_iff_describes, fun h => ?_⟩
  obtain ⟨written, -, hc⟩ := ofText_eq_ok_iff_describes.1 h
  exact ⟨hc.rate_nonneg, hc.keyHold_pos⟩

/-- Lone halves of a surrogate pair are keys of their own, and so is the character that stands in
for them elsewhere. -/
example :
    (ofText 2 "c.json"
      "\x7b\"keymap\": \x7b\"\\ud800\": 1, \"\\ud801\": 2, \"\\ufffd\": 3\x7d\x7d").toOption.map
        (fun c => c.keymap.map fun e => (e.1.code, e.2)) =
      some [(0xD800, 1), (0xD801, 2), (0xFFFD, 3)] := by
  decide +kernel

/-- A rate that is NaN is not less than zero, and so it is read. -/
theorem nan_accepted :
    ∃ c, ofText 1 "c.json" "\x7b\"rate_hz\": NaN\x7d" = .ok c ∧ ¬0 ≤ c.rate := by
  have hread : (match ofText 1 "c.json" "\x7b\"rate_hz\": NaN\x7d" with
      | .ok c => !decide (0 ≤ c.rate)
      | .error _ => false) = true := by decide +kernel
  split at hread
  · exact ⟨_, ‹_›, by simpa using hread⟩
  · cases hread

end ChipEight.Config
