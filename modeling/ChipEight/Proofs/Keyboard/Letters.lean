import ChipEight.Config
import ChipEight.Proofs.Keyboard
import Mathlib.Data.List.Induction

/-!
# Letters and their keys

A configuration may map a letter twice, once in each case, and to two keys. It is accepted, but
a keyboard looks letters up in lower case, and so each of them stands for one key only. This is
the key of the last entry for the letter. An entry means what it says if no other one for its
letter stands behind it. On a keyboard at rest it means that its key is pressed, and that the
keypad is asked for nothing else.
-/

namespace ChipEight.Keyboard

open Text (CodePoint Points)

/-! ## The key of a letter -/

/-- Two code points that a keyboard does not tell apart. -/
def SameLetter (a b : CodePoint) : Prop := Text.lower [a] = Text.lower [b]

instance (a b : CodePoint) : Decidable (SameLetter a b) := inferInstanceAs (Decidable (_ = _))

/-- The key of the last entry for a letter. -/
def LastKey (keymap : List (CodePoint × Fin 16)) (letter : CodePoint) (key : Fin 16) : Prop :=
  ∃ before other after, keymap = before ++ (other, key) :: after ∧ SameLetter other letter ∧
    ∀ e ∈ after, ¬ SameLetter e.1 letter

theorem exists_lastKey {keymap : List (CodePoint × Fin 16)} {e : CodePoint × Fin 16}
    (he : e ∈ keymap) : ∃ key, LastKey keymap e.1 key := by
  induction keymap using List.reverseRecOn with
  | nil => cases he
  | append_singleton keymap last ih =>
      by_cases hlast : SameLetter last.1 e.1
      · exact ⟨last.2, keymap, last.1, [], rfl, hlast, nofun⟩
      · have hmem : e ∈ keymap := by
          rcases List.mem_append.1 he with hmem | hmem
          · exact hmem
          · obtain rfl := List.mem_singleton.1 hmem
            exact absurd rfl hlast
        obtain ⟨key, before, other, after, rfl, hother, hafter⟩ := ih hmem
        refine ⟨key, before, other, after ++ [last], by simp, hother, fun f hf => ?_⟩
        rcases List.mem_append.1 hf with hf | hf
        · exact hafter f hf
        · obtain rfl := List.mem_singleton.1 hf
          exact hlast

theorem lowered_append (keymap : List (Points × Int)) (e : Points × Int) :
    lowered (keymap ++ [e]) = (lowered keymap).put (Text.lower e.1) e.2 := by
  rw [lowered, List.foldl_append]
  rfl

/-- What comes after an entry leaves it as it is, unless it is for the same name. -/
theorem lookup_lowered {before after : List (Points × Int)} {e : Points × Int} {name : Points}
    (he : Text.lower e.1 = name) (hafter : ∀ f ∈ after, Text.lower f.1 ≠ name) :
    (lowered (before ++ e :: after)).lookup name = some e.2 := by
  induction after using List.reverseRecOn with
  | nil => rw [lowered_append, Dictionary.lookup_put, if_pos he.symm]
  | append_singleton after last ih =>
      have hlast := hafter last (List.mem_append_right _ List.mem_cons_self)
      rw [← List.cons_append, ← List.append_assoc, lowered_append, Dictionary.lookup_put,
        if_neg (Ne.symm hlast)]
      exact ih fun f hf => hafter f (List.mem_append_left _ hf)

theorem lookup_keyNames {c : Config} {letter : CodePoint} {key : Fin 16}
    (h : LastKey c.keymap letter key) :
    (lowered c.keyNames).lookup (Text.lower [letter]) = some (key.val : Int) := by
  obtain ⟨before, other, after, hsplit, hother, hafter⟩ := h
  rw [Config.keyNames, hsplit, List.map_append, List.map_cons]
  exact lookup_lowered hother (List.forall_mem_map.2 hafter)

/-- No letter has two keys. -/
theorem LastKey.unique {keymap : List (CodePoint × Fin 16)} {letter : CodePoint} {key key' : Fin 16}
    (h : LastKey keymap letter key) (h' : LastKey keymap letter key') : key = key' := by
  have hlookup := (lookup_keyNames (c := { keymap := keymap }) h).symm.trans
    (lookup_keyNames (c := { keymap := keymap }) h')
  rw [Option.some.injEq] at hlookup
  omega

theorem LastKey.eq_of_forall {keymap : List (CodePoint × Fin 16)} {letter : CodePoint}
    {key key' : Fin 16} (h : LastKey keymap letter key)
    (hall : ∀ e ∈ keymap, SameLetter e.1 letter → e.2 = key') :
    key = key' := by
  obtain ⟨before, other, after, rfl, hother, -⟩ := h
  exact hall _ (List.mem_append_right before List.mem_cons_self) hother

/-! ## A keystroke on a keyboard at rest -/

variable {τ : Type} [Timeline τ]

/-- A keystroke presses a key and does nothing else to the keypad. The press is what happens
first, and where nobody reacts to it the key is held, and there is no other change. -/
structure Presses (k k' : Keyboard τ) (key : Int) : Prop where
  keypad : k'.keypad = (k.keypad.press key).1
  first : k.keypad.Sound → Keypad.Makes key true k.keypad k'.keypad
  only : k.keypad.pending = 0 → k'.held = some key ∧ k'.keypad.held = some key ∧
    Keypad.changes k'.keypad.history.toList =
      Keypad.changes k.keypad.history.toList ++ [(key, true)]

theorem keypad_feed_of_free {k : Keyboard τ} {text : Points} {key : Int}
    (h : k.keymap.lookup (Text.lower text) = some key) (hfree : k.held = none) (now : τ) :
    (k.feed text now).1.keypad = (k.keypad.press key).1 := by
  have hcall : (k.onKeypad (.press key)).1.keypad = (k.keypad.press key).1 := rfl
  rw [feed, h]
  simp only [hfree, reduceCtorEq, if_false, Option.isSome_none, Bool.false_eq_true]
  rcases hpress : k.onKeypad (.press key) with ⟨k', _ | _ | _ | _⟩ <;> rw [hpress] at hcall
  · exact hcall
  · exact hcall
  · exact hcall
  · rw [extend_fst]
    exact hcall

theorem presses_feed {k : Keyboard τ} {text : Points} {key : Int}
    (hkeys : ∀ text key, k.keymap.lookup text = some key → Keypad.IsKey key)
    (h : k.keymap.lookup (Text.lower text) = some key) (hfree : k.held = none)
    (hpad : k.keypad.held = none) (now : τ) : Presses k (k.feed text now).1 key where
  keypad := keypad_feed_of_free h hfree now
  first hsound := by
    rw [keypad_feed_of_free h hfree now]
    exact Keypad.makes_press hsound (hkeys _ _ h) hpad
  only hquiet := by
    have hk : k.Coupled := ⟨hpad.trans hfree.symm, hquiet, hkeys, fun _ hheld =>
      nomatch hfree.symm.trans hheld⟩
    obtain ⟨history, heq⟩ := hk.feed_of_free h hfree now
    have hchanges := Keypad.changes_press_of_quiet hquiet (hkeys _ _ h) hpad
    rw [← keypad_feed_of_free h hfree now] at hchanges
    refine ⟨?_, ?_, hchanges⟩ <;> rw [heq, extend_fst]

theorem isKey_of_keyNames {c : Config} :
    ∀ text key, (lowered c.keyNames).lookup text = some key → Keypad.IsKey key := by
  have hkeys : ∀ e ∈ c.keyNames, Keypad.IsKey e.2 :=
    List.forall_mem_map.2 fun e _ => ⟨Int.natCast_nonneg _, Int.ofNat_lt.2 e.2.isLt⟩
  have hfree : ({} : Keypad).held = none := rfl
  exact (coupled_new hkeys () () hfree rfl).keys

/-- The letter of an entry presses the key of the last entry for that letter. This is the
entry's own key unless an entry for the letter names another one. -/
theorem letter_presses_last {c : Config} {k : Keyboard τ} (hmap : k.keymap = lowered c.keyNames)
    (hfree : k.held = none) (hpad : k.keypad.held = none) {e : CodePoint × Fin 16}
    (he : e ∈ c.keymap) (now : τ) :
    ∃ key, (∀ key', LastKey c.keymap e.1 key' ↔ key' = key) ∧
      Presses k (k.feed [e.1] now).1 key.val ∧
      ((∀ f ∈ c.keymap, SameLetter f.1 e.1 → f.2 = e.2) → key = e.2) := by
  obtain ⟨key, hlast⟩ := exists_lastKey he
  refine ⟨key, fun key' => ⟨fun h => h.unique hlast, fun h => h ▸ hlast⟩, ?_, hlast.eq_of_forall⟩
  refine presses_feed ?_ ?_ hfree hpad now <;> rw [hmap]
  · exact isKey_of_keyNames
  · exact lookup_keyNames hlast

/-- In a map of two letters, each presses its own key. -/
theorem letter_presses_last_capital :
    ∃ c k, c = ({ keymap := [('A', 1), ('b', 2)] } : Config) ∧
      k = (new c.keyNames (.whole 10) (.whole 0) : Keyboard Number) ∧
      Presses k (k.feed "A" (.whole 5)).1 1 := by
  obtain ⟨c, hc⟩ : ∃ c : Config, c = { keymap := [('A', 1), ('b', 2)] } := ⟨_, rfl⟩
  have he : (CodePoint.char 'A', (1 : Fin 16)) ∈ c.keymap := by
    rw [hc]
    exact List.mem_cons_self
  have hown : ∀ f ∈ c.keymap, SameLetter f.1 'A' → f.2 = 1 := by
    rw [hc]
    decide +kernel
  obtain ⟨key, -, hpresses, hkey⟩ := letter_presses_last
    (k := (new c.keyNames (.whole 10) (.whole 0) : Keyboard Number)) rfl rfl rfl he (.whole 5)
  obtain rfl := hkey hown
  exact ⟨c, _, hc, rfl, hpresses⟩

/-- Of two entries for one letter the first is lost, and its letter presses the other key. -/
theorem shadowed_entry_lost :
    ∃ c, Config.ofText 2 "c.json" "\x7b\"keymap\": \x7b\"a\": 1, \"A\": 2\x7d\x7d" = .ok c ∧
      (CodePoint.char 'a', 1) ∈ c.keymap ∧
      ((new c.keyNames (.whole 10) (.whole 0) : Keyboard Number).feed "a"
        (.whole 5)).1.keypad.held = some 2 := by
  have hread : (match
        Config.ofText 2 "c.json" "\x7b\"keymap\": \x7b\"a\": 1, \"A\": 2\x7d\x7d" with
      | .ok c => decide ((CodePoint.char 'a', 1) ∈ c.keymap ∧
          ((new c.keyNames (.whole 10) (.whole 0) : Keyboard Number).feed "a"
            (.whole 5)).1.keypad.held = some 2)
      | .error _ => false) = true := by decide +kernel
  split at hread
  · exact ⟨_, ‹_›, by simpa using hread⟩
  · cases hread

end ChipEight.Keyboard
