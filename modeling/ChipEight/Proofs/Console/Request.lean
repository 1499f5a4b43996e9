import ChipEight.Console.Request
import ChipEight.Proofs.Options
import Mathlib.Data.List.Induction

/-!
# What a command line says about a run

A run is asked for by the options behind its command, and of an option that came more than once
only the last one counts: the request holds what its values read as.
-/

namespace ChipEight

namespace Options

/-! ## The last of an option -/

/-- The values of an option of this name. -/
def Handed.values? (label : String) : Handed → Option (List String)
  | .flag f values => if f.label = label then some values else none
  | .operand _ => none

/-- The values that the option of a name came with last, if it came. -/
def lastGiven? (label : String) (hs : List Handed) : Option (List String) :=
  hs.reverse.findSome? (Handed.values? label)

variable {α : Type} {label : String} {hs : List Handed}

theorem lastGiven?_concat (x : Handed) :
    lastGiven? label (hs ++ [x]) = (x.values? label).or (lastGiven? label hs) := by
  simp only [lastGiven?, List.reverse_concat, List.findSome?_cons]
  cases x.values? label <;> rfl

theorem lastGiven?_flag {f : Flag} {values : List String} :
    lastGiven? label (hs ++ [.flag f values]) =
      if f.label = label then some values else lastGiven? label hs := by
  rw [lastGiven?_concat, Handed.values?]
  split <;> rfl

theorem lastGiven?_operand {words : List String} :
    lastGiven? label (hs ++ [.operand words]) = lastGiven? label hs := by
  rw [lastGiven?_concat]
  rfl

/-- A setting is what its option came with last, and unset where the option did not come. -/
def Setting.Reads (read : String → Except String α) (label : String) (hs : List Handed)
    (s : Setting α) : Prop :=
  match lastGiven? label hs with
  | none => s = .unset
  | some values => Setting.read read values = .ok s

end Options

namespace Console

open Options (Flag Handed Setting handed lastGiven?)

/-- The options and operands that a command line hands to a run. -/
def RunOptions (args : List String) (hs : List Handed) : Prop :=
  ∃ outer rest, handed mainGrammar args = .ok (outer, []) ∧ .operand ("run" :: rest) ∈ outer ∧
    handed runGrammar rest = .ok (hs, [])

/-- A request holds what the options say. -/
structure RunRequest.Reads (hs : List Handed) (r : RunRequest) : Prop where
  rate : r.overrides.rate.Reads real "--rate" hs
  maxCycles : r.overrides.maxCycles.Reads natural "--max-cycles" hs
  seed : r.overrides.seed.Reads natural "--seed" hs
  config : r.config = (lastGiven? "--config" hs).bind Options.nonempty?
  saveConfig : r.saveConfig = (lastGiven? "--save-config" hs).bind Options.nonempty?

variable {hs : List Handed} {r r' : RunRequest} {args : List String}

theorem reads_start : RunRequest.Reads [] {} := ⟨rfl, rfl, rfl, rfl, rfl⟩

theorem RunRequest.Reads.withFlag {f : Flag} {values : List String} (hr : r.Reads hs)
    (h : r.withFlag f values = .ok r') : r'.Reads (hs ++ [.flag f values]) := by
  obtain ⟨hrate, hlimit, hseed, hconfig, hsave⟩ := hr
  unfold RunRequest.withFlag at h
  split at h
  case h_1 hlabel | h_2 hlabel | h_6 hlabel | h_7 hlabel | h_8 hlabel =>
    cases h
    constructor <;> simp [Setting.Reads, Options.lastGiven?_flag, hlabel] <;> assumption
  case h_3 hlabel | h_4 hlabel | h_5 hlabel =>
    obtain ⟨s, hs, h⟩ := bind_eq_ok h
    cases h
    constructor <;> simp [Setting.Reads, Options.lastGiven?_flag, hlabel] <;> assumption
  case h_9 hnotConfig hnotSave hnotRate hnotLimit hnotSeed _ _ _ =>
    cases h
    constructor <;>
      simp [Setting.Reads, Options.lastGiven?_flag, if_neg hnotConfig, if_neg hnotSave,
        if_neg hnotRate, if_neg hnotLimit, if_neg hnotSeed] <;> assumption

/-- The request that options and operands make up holds what the options say. -/
theorem reads_of_takeAll? (h : runHandler.takeAll? {} hs = some r) : r.Reads hs := by
  induction hs using List.reverseRecOn generalizing r with
  | nil =>
      cases h
      exact reads_start
  | append_singleton hs x ih =>
      rw [Options.takeAll?_concat] at h
      obtain ⟨r₀, hr₀, hx⟩ := Option.bind_eq_some_iff.1 h
      cases x with
      | flag f values => exact (ih hr₀).withFlag (Options.take?_flag_iff.1 hx)
      | operand words =>
          cases hx
          obtain ⟨hrate, hlimit, hseed, hconfig, hsave⟩ := ih hr₀
          constructor <;> simpa [Setting.Reads, Options.lastGiven?_operand]

/-! ## The command -/

theorem refuseExtras_eq_ok {g : Options.Grammar} {extras : List String}
    (h : Options.refuseExtras g extras = .ok ()) : extras = [] := by
  unfold Options.refuseExtras at h
  split at h
  · next hempty => exact List.isEmpty_iff.1 hempty
  · cases h

theorem requestOf_eq_ok {command : String} {inner : List String}
    (h : requestOf command args = .ok (.run r, inner)) :
    command = "run" ∧ Options.parse runGrammar runHandler {} args = .ok (r, inner) := by
  unfold requestOf at h
  split at h
  · obtain ⟨⟨r', extras⟩, hparse, h⟩ := bind_eq_ok h
    cases h
    exact ⟨rfl, hparse⟩
  · obtain ⟨_, -, h⟩ := bind_eq_ok h
    cases h
  · obtain ⟨_, -, h⟩ := bind_eq_ok h
    cases h
  · cases h

theorem takeAll?_mainHandler {outer : List Handed} {inner : List String}
    (h : mainHandler.takeAll? (.nothing, []) outer = some (.run r, inner)) :
    ∃ rest, .operand ("run" :: rest) ∈ outer ∧
      Options.parse runGrammar runHandler {} rest = .ok (r, inner) := by
  induction outer using List.reverseRecOn with
  | nil => cases h
  | append_singleton outer x ih =>
      rw [Options.takeAll?_concat] at h
      obtain ⟨s, hs, hx⟩ := Option.bind_eq_some_iff.1 h
      cases x with
      | flag f values =>
          cases hx
          obtain ⟨rest, hrest, hparse⟩ := ih hs
          exact ⟨rest, List.mem_append_left _ hrest, hparse⟩
      | operand words =>
          obtain ⟨hword, hparse⟩ := requestOf_eq_ok (Options.take?_operand_iff.1 hx)
          cases words with
          | nil => exact absurd hword (by decide)
          | cons command rest =>
              cases hword
              exact ⟨rest, List.mem_concat_self, hparse⟩

/-- A command line that asks for a run hands it options and operands, and nothing is left over. -/
theorem request_eq_ok (h : request args = .ok (.run r)) : ∃ hs, RunOptions args hs ∧ r.Reads hs := by
  obtain ⟨⟨⟨q, inner⟩, extras⟩, hparse, h⟩ := bind_eq_ok h
  obtain ⟨⟨⟩, hextras, h⟩ := bind_eq_ok h
  cases h
  obtain ⟨rfl, rfl⟩ := List.append_eq_nil_iff.1 (refuseExtras_eq_ok hextras)
  obtain ⟨outer, houter, htakes⟩ := Options.parse_eq_ok hparse
  obtain ⟨rest, hrest, hrun⟩ := takeAll?_mainHandler htakes
  obtain ⟨hs, hhs, htakes⟩ := Options.parse_eq_ok hrun
  exact ⟨hs, ⟨outer, rest, houter, hrest, hhs⟩, reads_of_takeAll? htakes⟩

end Console

end ChipEight
