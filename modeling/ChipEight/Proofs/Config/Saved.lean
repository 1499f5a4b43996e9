import ChipEight.Proofs.Config.Accepted
import ChipEight.Proofs.Json.Ascii
import Mathlib.Algebra.Ring.Int.Defs
import Mathlib.Data.List.Forall2
import Mathlib.Data.List.Nodup

/-!
# Configurations that are saved and read again

A configuration that is saved in full is read back as it was, with every number of its kind
and every entry of the key map in its place. What it takes is that its integers are short enough
to be written; and that a finite double is read from its own text, which is asked for the two
doubles a configuration can hold. A text that was read as a configuration has short integers by
itself, so it can always be saved, and saving it a second time changes nothing.

Two containers stand inside each other in what is saved, the object and the key map, so whoever
reads it needs room for two.
-/

namespace ChipEight.Config

open Json (Members)
open Text (CodePoint Points)

/-- The settings are such as the checks let pass, and no code point has two keys. -/
structure Valid (c : Config) : Prop where
  rate : c.rate.IsNan ∨ 0 ≤ c.rate
  keyHold : c.keyHold.IsNan ∨ 0 < c.keyHold
  keymap : (c.keymap.map Prod.fst).Nodup

/-- An integer of as many digits as can be written. -/
def IsShort (n : Int) : Prop := n.natAbs < 10 ^ Json.maxDigits

/-- The integers of a configuration can be written. -/
structure Short (c : Config) : Prop where
  rate : ∀ n, c.rate = .whole n → IsShort n
  maxCycles : ∀ n ∈ c.maxCycles, IsShort (n : Int)
  seed : ∀ n ∈ c.seed, IsShort n
  keyHold : ∀ n, c.keyHold = .whole n → IsShort n

/-- The finite doubles of a configuration are read from their own texts, which takes no room for
containers. -/
def RealsReadBack (c : Config) : Prop :=
  ∀ x negative m e, Number.real x = c.rate ∨ Number.real x = c.keyHold →
    Numeral.Binary64.parts x = .finite negative m e →
    Json.parse 0 (Json.realStyle.text x) = .ok (.number (.real x))

/-! ## The members that are saved -/

/-- An integer, or null where there is none. -/
def ofOption (o : Option Int) : Json := (o.map Json.int).getD .null

def ofEntry (entry : CodePoint × Fin 16) : Points × Json :=
  ([entry.1], Json.int entry.2.val)

/-- The members of a saved configuration, every setting included. -/
def members (c : Config) : Members := [
  ("rate_hz", .number c.rate),
  ("max_cycles", ofOption (c.maxCycles.map Int.ofNat)),
  ("seed", ofOption c.seed),
  ("key_hold", .number c.keyHold),
  ("keymap", .object (c.keymap.map ofEntry))]

theorem toJson_eq (c : Config) : c.toJson = .object c.members := by
  rw [toJson, members]
  cases c.maxCycles <;> rfl

/-- The members of a configuration, with any values for its limit and its seed. -/
def membersWith (c : Config) (limit seed : Json) : Members := [
  ("rate_hz", .number c.rate),
  ("max_cycles", limit),
  ("seed", seed),
  ("key_hold", .number c.keyHold),
  ("keymap", .object (c.keymap.map ofEntry))]

theorem members_eq (c : Config) :
    c.members = c.membersWith (ofOption (c.maxCycles.map Int.ofNat)) (ofOption c.seed) := rfl

theorem map_fst_membersWith (c : Config) (limit seed : Json) :
    (c.membersWith limit seed).map Prod.fst =
      ["rate_hz", "max_cycles", "seed", "key_hold", "keymap"].map Text.points := rfl

theorem nodup_membersWith (c : Config) (limit seed : Json) :
    ((c.membersWith limit seed).map Prod.fst).Nodup := by
  rw [map_fst_membersWith]
  exact List.Nodup.map Text.points_injective (by decide)

theorem halvesApart_membersWith (c : Config) (limit seed : Json) :
    ∀ m ∈ c.membersWith limit seed, Json.HalvesApart m.1 := by
  rw [← List.forall_mem_map (f := Prod.fst) (P := Json.HalvesApart), map_fst_membersWith]
  exact List.forall_mem_map.2 fun name _ => Json.halvesApart_points name

theorem nodup_members (c : Config) : (c.members.map Prod.fst).Nodup :=
  c.nodup_membersWith _ _

theorem nodup_entries {keymap : List (CodePoint × Fin 16)} (h : (keymap.map Prod.fst).Nodup) :
    ((keymap.map ofEntry).map Prod.fst).Nodup := by
  have hnames : (keymap.map ofEntry).map Prod.fst = (keymap.map Prod.fst).map fun p => [p] := by
    simp [ofEntry]
  rw [hnames]
  exact h.map fun _ _ heq => List.singleton_inj.1 heq

theorem isShort_of_lt {n k : Nat} (hn : n < 10 ^ k) (hk : k ≤ Json.maxDigits) :
    IsShort (n : Int) :=
  Nat.lt_of_lt_of_le hn (Nat.pow_le_pow_right (by decide) hk)

theorem isShort_key (key : Fin 16) : IsShort (key.val : Int) :=
  isShort_of_lt (k := 2) (Nat.lt_trans key.isLt (by decide)) (by decide)

/-! ## Whether they are saved in full -/

section Cut

variable {l : Json.Layout} {depth : Nat}

theorem cutValue?_number_eq_none_iff {n : Number} :
    Json.cutValue? l depth (.number n) = none ↔ ∀ k, n = .whole k → IsShort k := by
  cases n with
  | whole k =>
      rw [Json.cutValue?_whole_eq_none_iff]
      exact ⟨fun h _ hk => Number.whole.inj hk ▸ h, fun h => h k rfl⟩
  | real x => simp [Json.cutValue?]

theorem cutValue?_ofOption_eq_none_iff {o : Option Int} :
    Json.cutValue? l depth (ofOption o) = none ↔ ∀ n ∈ o, IsShort n := by
  cases o with
  | none => simp [ofOption, Json.cutValue?]
  | some n =>
      refine Json.cutValue?_whole_eq_none_iff.trans ?_
      exact ⟨fun h _ hn => Option.some.inj hn ▸ h, fun h => h n rfl⟩

theorem cutValue?_entries {keymap : List (CodePoint × Fin 16)} :
    Json.cutValue? l depth (.object (keymap.map ofEntry)) = none :=
  Json.cutValue?_object_eq_none_iff.2 <| List.forall_mem_map.2 fun entry _ =>
    Json.cutValue?_whole_eq_none_iff.2 (isShort_key entry.2)

theorem cutValue?_membersWith_eq_none_iff {c : Config} {limit seed : Json} :
    Json.cutValue? l depth (.object (c.membersWith limit seed)) = none ↔
      (∀ n, c.rate = .whole n → IsShort n) ∧ Json.cutValue? l (depth + 1) limit = none ∧
        Json.cutValue? l (depth + 1) seed = none ∧ ∀ n, c.keyHold = .whole n → IsShort n := by
  rw [Json.cutValue?_object_eq_none_iff, membersWith]
  simp only [List.forall_mem_cons, cutValue?_number_eq_none_iff, cutValue?_entries]
  exact ⟨fun ⟨hrate, hlimit, hseed, hhold, _⟩ => ⟨hrate, hlimit, hseed, hhold⟩,
    fun ⟨hrate, hlimit, hseed, hhold⟩ => ⟨hrate, hlimit, hseed, hhold, trivial, nofun⟩⟩

end Cut

theorem forall_mem_map_ofNat {o : Option Nat} {p : Int → Prop} :
    (∀ n ∈ o.map Int.ofNat, p n) ↔ ∀ n ∈ o, p (n : Int) := by
  cases o <;> simp

/-- A configuration is saved in full exactly if its integers can be written. -/
theorem textBeforeTooLong?_eq_none_iff {c : Config} :
    c.toJson.textBeforeTooLong? layout = none ↔ c.Short := by
  rw [Json.textBeforeTooLong?, Option.map_eq_none_iff, toJson_eq, members_eq,
    cutValue?_membersWith_eq_none_iff, cutValue?_ofOption_eq_none_iff,
    cutValue?_ofOption_eq_none_iff, forall_mem_map_ofNat]
  exact ⟨fun ⟨hrate, hlimit, hseed, hhold⟩ => ⟨hrate, hlimit, hseed, hhold⟩,
    fun h => ⟨h.rate, h.maxCycles, h.seed, h.keyHold⟩⟩

/-! ## What is read of them -/

theorem readsBack_number {c : Config} (hr : c.RealsReadBack) {n : Number}
    (hn : n = c.rate ∨ n = c.keyHold) (hs : ∀ k, n = .whole k → IsShort k) :
    Json.ReadsBack n := by
  cases n with
  | whole k => exact Json.readsBack_whole (Json.isTooLong_eq_false_iff.2 (hs k rfl))
  | real x =>
      cases hx : Numeral.Binary64.parts x with
      | nan => exact Json.readsBack_nan hx
      | infinite negative => exact Json.readsBack_infinite hx
      | finite negative m e => exact Json.readsBack_of_parse (hr x negative m e hn hx)

theorem readable_int {room : Nat} {n : Int} (h : IsShort n) : Json.Readable room (Json.int n) :=
  .number (Json.readsBack_whole (Json.isTooLong_eq_false_iff.2 h))

theorem readable_ofOption {room : Nat} {o : Option Int} (h : ∀ n ∈ o, IsShort n) :
    Json.Readable room (ofOption o) := by
  cases o with
  | none => exact .null
  | some n => exact readable_int (h n rfl)

/-- There is room for the object, and for the key map and a container of a limit or a seed in
it. -/
theorem readable_membersWith {c : Config} {room : Nat} {limit seed : Json}
    (hkeymap : (c.keymap.map Prod.fst).Nodup) (hr : c.RealsReadBack)
    (hrate : ∀ n, c.rate = .whole n → IsShort n) (hhold : ∀ n, c.keyHold = .whole n → IsShort n)
    (hlimit : Json.Readable (room + 1) limit) (hseed : Json.Readable (room + 1) seed) :
    Json.Readable (room + 2) (.object (c.membersWith limit seed)) := by
  refine .object (c.nodup_membersWith limit seed) (c.halvesApart_membersWith limit seed) ?_
  simp only [membersWith, List.forall_mem_cons]
  refine ⟨.number (readsBack_number hr (.inl rfl) hrate), hlimit, hseed,
    .number (readsBack_number hr (.inr rfl) hhold), ?_, nofun⟩
  refine .object (nodup_entries hkeymap) ?_ ?_
  · exact List.forall_mem_map.2 fun entry _ => .singleton entry.1
  · exact List.forall_mem_map.2 fun entry _ => readable_int (isShort_key entry.2)

theorem readable_members {c : Config} {room : Nat} (hc : c.Valid) (hs : c.Short)
    (hr : c.RealsReadBack) : Json.Readable (room + 2) (.object c.members) :=
  readable_membersWith hc.keymap hr hs.rate hs.keyHold
    (readable_ofOption (forall_mem_map_ofNat.2 hs.maxCycles)) (readable_ofOption hs.seed)

theorem isLimit_ofOption (limit : Option Nat) :
    IsLimit (ofOption (limit.map Int.ofNat)) limit := by
  cases limit with
  | none => exact .inl ⟨rfl, rfl⟩
  | some n => exact .inr ⟨n, rfl, rfl⟩

theorem isSeed_ofOption (seed : Option Int) : IsSeed (ofOption seed) seed := by
  cases seed with
  | none => exact .inl ⟨rfl, rfl⟩
  | some n => exact .inr ⟨n, rfl, rfl⟩

theorem isKeymap_entries (keymap : List (CodePoint × Fin 16)) :
    IsKeymap (.object (keymap.map ofEntry)) keymap := by
  refine ⟨_, rfl, List.forall₂_map_left_iff.2 (List.forall₂_same.2 fun entry _ => ⟨rfl, rfl⟩)⟩

/-- The members of a saved configuration describe it. -/
theorem describes_members {c : Config} (hc : c.Valid) : Describes c.members c where
  known _ hm := List.mem_map_of_mem (f := Prod.fst) hm
  rate := ⟨rfl, hc.rate⟩
  maxCycles := isLimit_ofOption c.maxCycles
  seed := isSeed_ofOption c.seed
  keyHold := ⟨rfl, hc.keyHold⟩
  keymap := isKeymap_entries c.keymap

theorem ofMembers_members {c : Config} (hc : c.Valid) : ofMembers c.members = .ok c := by
  have h := ofMembers_collect_iff.2 (describes_members hc)
  rwa [Members.collect_of_nodup c.nodup_members] at h

/-- What is written of members is read as what they describe: the text is ASCII, and its lines
end in line feeds alone. -/
theorem ofContents_render {room : Nat} {ms : Members} (h : Json.Readable room (.object ms))
    (path : String) :
    ofContents room path (Text.Utf8.encode (Json.render layout (.object ms))) = ofMembers ms := by
  have hplain := h.plain layout 0
  rw [ofContents, Json.render, Text.Utf8.decode_encode_ascii fun d hd => (hplain d hd).1]
  simp only [Text.unifyNewlines_of_plain hplain]
  rw [← Json.render, ofText, Json.parse_render h]

/-- The file of a configuration is read as the configuration. -/
theorem ofContents_encode {c : Config} {room : Nat} (hroom : 2 ≤ room) (hc : c.Valid)
    (hs : c.Short) (hr : c.RealsReadBack) (path : String) :
    ofContents room path (Text.Utf8.encode c.toText) = .ok c := by
  obtain ⟨inner, rfl⟩ : ∃ inner, room = inner + 2 := ⟨room - 2, by omega⟩
  rw [toText, toJson_eq, ofContents_render (readable_members hc hs hr)]
  exact ofMembers_members hc

/-! ## Texts that were read -/

section Read

variable {room : Nat} {text : String} {written : Members} {c : Config}

/-- What a setting says is its default, or a value that the text writes. -/
theorem Sets.eq_or_writes {α : Type} {name : Points} {missing x : α} {Says : Json → α → Prop}
    (h : Sets written name missing Says x) (hwritten : Json.DenotesObject room text written) :
    x = missing ∨ ∃ v inner w, Json.Writes inner w v ∧ Says v x := by
  obtain h | ⟨v, hv, hsays⟩ := h.eq_or_says
  · exact .inl h
  · obtain ⟨inner, w, hw⟩ := hwritten.writes_last hv
    exact .inr ⟨v, inner, w, hw, hsays⟩

theorem short_of_describes (hwritten : Json.DenotesObject room text written)
    (hc : Describes written c) : c.Short where
  rate n hn := by
    obtain h | ⟨v, _, w, hw, rfl, -⟩ := hc.rate.eq_or_writes hwritten
    · cases hn.symm.trans h
      exact isShort_of_lt (k := 6) (by decide) (by decide)
    · exact (hn ▸ hw).natAbs_lt
  maxCycles n hn := by
    obtain h | ⟨v, _, w, hw, ⟨rfl, h⟩ | ⟨k, rfl, h⟩⟩ := hc.maxCycles.eq_or_writes hwritten
    · cases h.symm.trans hn
    · cases h.symm.trans hn
    · cases h.symm.trans hn
      exact hw.natAbs_lt
  seed n hn := by
    obtain h | ⟨v, _, w, hw, ⟨rfl, h⟩ | ⟨k, rfl, h⟩⟩ := hc.seed.eq_or_writes hwritten
    · cases h.symm.trans hn
    · cases h.symm.trans hn
    · cases h.symm.trans hn
      exact hw.natAbs_lt
  keyHold n hn := by
    obtain h | ⟨v, _, w, hw, rfl, -⟩ := hc.keyHold.eq_or_writes hwritten
    · cases hn.symm.trans h
    · exact (hn ▸ hw).natAbs_lt

theorem valid_of_describes (hwritten : Json.DenotesObject room text written)
    (hc : Describes written c) : c.Valid where
  rate := hc.rate_nonneg
  keyHold := hc.keyHold_pos
  keymap := by
    obtain h | ⟨v, _, w, hw, ms, rfl, hms⟩ := hc.keymap.eq_or_writes hwritten
    · rw [h]
      decide
    · -- The names of an object are apart, and a name stands for one code point.
      have hnames : ms.map Prod.fst = (c.keymap.map Prod.fst).map fun p => [p] := by
        rw [List.map_map, ← List.forall₂_eq_eq_eq, List.forall₂_map_left_iff,
          List.forall₂_map_right_iff]
        exact hms.imp fun _ _ h => h.1
      exact (hnames ▸ hw.nodup).of_map _

end Read

theorem describes_standard : Describes [] standard where
  known := nofun
  rate := rfl
  maxCycles := rfl
  seed := rfl
  keyHold := rfl
  keymap := rfl

theorem valid_standard : Valid standard where
  rate := describes_standard.rate_nonneg
  keyHold := describes_standard.keyHold_pos
  keymap := by decide

/-- What is read from a text can be written, and is a configuration. -/
theorem valid_and_short_of_ofText {room : Nat} {path text : String} {c : Config}
    (h : ofText room path text = .ok c) : c.Valid ∧ c.Short := by
  obtain ⟨written, hwritten, hc⟩ := ofText_eq_ok_iff_describes.1 h
  exact ⟨valid_of_describes hwritten hc, short_of_describes hwritten hc⟩

theorem ofContents_eq_ok {room : Nat} {path : String} {contents : List UInt8} {c : Config}
    (h : ofContents room path contents = .ok c) : ∃ text, ofText room path text = .ok c := by
  unfold ofContents at h
  split at h
  · cases h
  · exact ⟨_, h⟩

/-- A configuration is saved in full exactly if its integers can be written, and then it is
read back as it was, wherever there is room for two containers. What was read from a file, with
whatever room, can always be saved in full, and it is the same text that is saved after it was
read again. -/
theorem saved_reads_back (c : Config) (hreals : c.RealsReadBack) :
    (c.toJson.textBeforeTooLong? layout = none ↔ c.Short) ∧
    (c.Valid → c.Short → ∀ room path, 2 ≤ room →
      ofContents room path (Text.Utf8.encode c.toText) = .ok c) ∧
    (∀ room path contents, ofContents room path contents = .ok c →
      c.toJson.textBeforeTooLong? layout = none ∧
      ∀ room' path', 2 ≤ room' →
        ∃ c', ofContents room' path' (Text.Utf8.encode c.toText) = .ok c' ∧
          c'.toText = c.toText) := by
  refine ⟨textBeforeTooLong?_eq_none_iff, fun hvalid hshort room path hroom =>
    ofContents_encode hroom hvalid hshort hreals path, ?_⟩
  intro room path contents hread
  obtain ⟨text, htext⟩ := ofContents_eq_ok hread
  obtain ⟨hvalid, hshort⟩ := valid_and_short_of_ofText htext
  exact ⟨textBeforeTooLong?_eq_none_iff.2 hshort, fun room' path' hroom =>
    ⟨c, ofContents_encode hroom hvalid hshort hreals path', rfl⟩⟩

/-- A text that reads as itself, as evaluation shows it. -/
theorem parse_text_of_reads {x : Float}
    (h : (match Json.parse 0 (Json.realStyle.text x) with
      | .ok (.number (.real y)) => decide (y = x)
      | _ => false) = true) :
    Json.parse 0 (Json.realStyle.text x) = .ok (.number (.real x)) := by
  split at h
  · next y hy => rw [hy, of_decide_eq_true h]
  · cases h

/-- Settings at the edges: a rate without bound, a hold that no double is exactly, the least
integer that can be written, and keys that need escapes, two of them halves that would be one
character if they stood side by side. -/
def extreme : Config where
  rate := .real (1.0 / 0.0)
  maxCycles := none
  seed := some (-(10 ^ Json.maxDigits - 1))
  keyHold := standard.keyHold
  keymap := (['"', '\\', '\x1f', '\x7f', 'é', '😀', .ofCode 0xD83D, .ofCode 0xDE00] :
    List CodePoint).zip (standard.keymap.map Prod.snd)

theorem valid_extreme : extreme.Valid where
  rate := .inr (by decide +kernel)
  keyHold := .inr (by decide +kernel)
  keymap := by decide +kernel

theorem short_extreme : extreme.Short where
  rate := nofun
  maxCycles := nofun
  seed n hn := by
    rw [← Option.some.inj hn]
    unfold IsShort
    decide +kernel
  keyHold := nofun

theorem realsReadBack_extreme : extreme.RealsReadBack := by
  rintro x negative m e (h | h) -
  · rw [Number.real.inj h]
    exact parse_text_of_reads (by decide +kernel)
  · rw [Number.real.inj h]
    exact parse_text_of_reads (by decide +kernel)

theorem saved_reads_back_extreme :
    extreme.RealsReadBack ∧ extreme.Valid ∧ extreme.Short ∧
      ofContents 2 "c.json" (Text.Utf8.encode extreme.toText) = .ok extreme ∧
      extreme.toJson.textBeforeTooLong? layout = none ∧
      ∃ c', ofContents 2 "c.json" (Text.Utf8.encode extreme.toText) = .ok c' ∧
        c'.toText = extreme.toText := by
  obtain ⟨-, hfirst, hsecond⟩ := saved_reads_back extreme realsReadBack_extreme
  have hread := hfirst valid_extreme short_extreme 2 "c.json" (Nat.le_refl 2)
  obtain ⟨hcut, hagain⟩ := hsecond 2 "c.json" _ hread
  exact ⟨realsReadBack_extreme, valid_extreme, short_extreme, hread, hcut,
    hagain 2 "c.json" (Nat.le_refl 2)⟩

/-- The default settings with the least seed that is too long to be written. -/
def longSeed : Config := { standard with seed := some (10 ^ Json.maxDigits) }

/-- What is written of them. -/
def beforeLongSeed : String :=
  "\x7b\n  \"rate_hz\": 120000,\n  \"max_cycles\": null,\n  \"seed\": "

/-- A seed may be too long to be written, though nothing else is wrong with it: the text is cut
in front of it, and what is left is no configuration. -/
theorem longSeed_lost :
    longSeed.Valid ∧ longSeed.RealsReadBack ∧
      longSeed.toJson.textBeforeTooLong? layout = some beforeLongSeed ∧
      ∀ c, ofContents 2 "c.json" (Text.Utf8.encode beforeLongSeed) ≠ .ok c := by
  refine ⟨⟨.inr (by decide +kernel), .inr (by decide +kernel), by decide⟩, ?_,
    by decide +kernel, ?_⟩
  · rintro x negative m e (h | h) -
    · cases h
    · rw [Number.real.inj h]
      exact parse_text_of_reads (by decide +kernel)
  · have hrefused : (ofContents 2 "c.json" (Text.Utf8.encode beforeLongSeed)).toBool = false := by
      decide +kernel
    intro c hread
    rw [hread] at hrefused
    cases hrefused

end ChipEight.Config
