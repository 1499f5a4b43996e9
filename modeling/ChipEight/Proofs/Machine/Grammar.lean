import ChipEight.Proofs.Machine.Faults
import ChipEight.Proofs.Machine.Listing

/-!
# One grammar for everybody

The decoder, the executor, the statistics and the listing each have to know which words are
instructions, and each of them has numbers of its own to go by. The decoder is asked about
integers of any size besides, of which it looks at the low sixteen bits. This file holds the four
against each other, and all of them against the table.

A word of the table is cut into fields that make up the word again, it is counted
under a name of an instruction, its line in a listing begins with the name of one, and
no machine finds it unknown or is led by it to a register that is not there. Any other
word is refused by the decoder with the word and the address it was given, it is
counted under a name with a question mark, it is listed as data, and every machine
that is made to execute it refuses it as well.
-/

namespace ChipEight

namespace Disassembly

/-- A line that shows its word as data. -/
def ShowsData (line : String) : Prop := "DW ".toList <+: line.toList

/-- A line that has only question marks for its word. -/
def ShowsUnused (line : String) : Prop := "???".toList <+: line.toList

theorem showsData_data (w : Int) : ShowsData ("DW " ++ wordText w) := by
  rw [ShowsData, String.toList_append]
  exact List.prefix_append _ _

end Disassembly

namespace Operation

/-- The names with which the lines of a listing begin. -/
def lineNames : List String :=
  ["CLS", "RET", "JP", "CALL", "SE", "SNE", "SKP", "SKNP", "LD", "ADD", "OR", "AND",
    "XOR", "SUB", "SHR", "SUBN", "SHL", "RND", "DRW"]

/-- The names under which instructions are counted. -/
def mnemonics : List String :=
  ["CLS", "RET", "JP", "CALL", "SE", "SNE", "SKP", "SKNP", "LD", "ADD", "OR", "AND",
    "XOR", "SUB", "SHR", "SUBN", "SHL", "LD I", "JP V0", "RND", "DRW", "LD Vx,DT",
    "LD Vx,K", "LD DT,Vx", "LD ST,Vx", "ADD I,Vx", "LD F,Vx", "LD B,Vx", "LD [I],Vx",
    "LD Vx,[I]"]

theorem mnemonic_mem_mnemonics (o : Operation) : o.mnemonic ∈ mnemonics := by
  cases o with
  | skip c => cases c <;> simp [mnemonic, Condition.mnemonic, mnemonics]
  | arithmetic f x y => cases f <;> simp [mnemonic, Arithmetic.name, mnemonics]
  | _ => simp [mnemonic, mnemonics]

/-- No name with a question mark is the name of an instruction. -/
theorem placeholder_not_mem_mnemonics (family : Option Family) :
    Family.placeholder family ∉ mnemonics := by
  cases family with
  | none => decide
  | some f => cases f <;> decide

theorem prefix_line (name : String) (operands : List String) :
    name.toList <+: (Disassembly.line name operands).toList := by
  rw [Assembly.toList_line]
  exact List.prefix_append _ _

theorem exists_prefix_text (o : Operation) :
    ∃ name ∈ lineNames, name.toList <+: o.text.toList := by
  cases o with
  | clearScreen | ret => exact ⟨_, by simp [text, lineNames], List.prefix_refl _⟩
  | skip c =>
      refine ⟨_, ?_, prefix_line c.mnemonic c.operands⟩
      cases c <;> simp [Condition.mnemonic, lineNames]
  | arithmetic f x y =>
      refine ⟨_, ?_, prefix_line f.name _⟩
      cases f <;> simp [Arithmetic.name, lineNames]
  | _ => exact ⟨_, by simp [lineNames], prefix_line _ _⟩

theorem not_shows_text (o : Operation) :
    ¬ Disassembly.ShowsData o.text ∧ ¬ Disassembly.ShowsUnused o.text := by
  obtain ⟨name, hname, hprefix⟩ := o.exists_prefix_text
  -- of two beginnings of one line, one is the beginning of the other
  have happart : ∀ name ∈ lineNames, ∀ other ∈ ["DW ", "???"],
      ¬ name.toList <+: other.toList ∧ ¬ other.toList <+: name.toList := by decide
  have hnot : ∀ other ∈ ["DW ", "???"], ¬ other.toList <+: o.text.toList := by
    intro other hother h
    obtain ⟨h₁, h₂⟩ := happart name hname other hother
    rcases List.prefix_or_prefix_of_prefix hprefix h with hp | hp
    · exact h₁ hp
    · exact h₂ hp
  exact ⟨hnot _ (by simp), hnot _ (by simp)⟩

end Operation

namespace Instruction

/-! ## Words of any size -/

/-- Only the low sixteen bits of a word are looked at. -/
theorem ofWord_of_emod {word : Int} {w : Nat} (h : word % 65536 = w) :
    ofWord word = ofWord w := by
  have hw : (w : Int) % 65536 = w := by omega
  rw [ofWord, ofWord, h, hw]

theorem decode_of_emod {word : Int} {w : Nat} (h : word % 65536 = w) (a : Option Int) :
    decode word a = decode w a := by
  simp only [decode, ofWord_of_emod h]

/-! ## Accepted and refused -/

/-- What becomes of a word that is an instruction. Its fields are digits and make up
the word; it is counted and listed by a name; and when a machine executes it, neither
the instruction nor a register it names can turn out not to exist. -/
structure Accepted (word : Int) (i : Instruction) : Prop where
  masked : i.word = word % 65536
  whole : i.word = i.op * 4096 + i.nnn
  low : i.nnn = i.x * 256 + i.nn
  lower : i.nn = i.y * 16 + i.n
  digits : IsNibble i.op ∧ IsNibble i.x ∧ IsNibble i.y ∧ IsNibble i.n
  byte : IsByte i.nn
  address : IsAddress i.nnn
  name : i.mnemonic ∈ Operation.mnemonics
  named : ∀ family, i.mnemonic ≠ Family.placeholder family
  listed : Disassembly.ofWord word = i.text
  text : ¬ Disassembly.ShowsData i.text ∧ ¬ Disassembly.ShowsUnused i.text
  known : ∀ m w a m', i.execute m ≠ .error (.unknownInstruction w a) m'
  inside : ∀ m access m', i.execute m ≠ .error (.noSuchRegister access) m'

/-- What becomes of a word that is none, together with the fault that says so. -/
structure Refused (word : Int) (address : Option Int) (f : Fault) : Prop where
  fault : f = .unknownInstruction (word % 65536) address
  name : ∃ family, (ofWord word).mnemonic = Family.placeholder family
  listed : Disassembly.ShowsData (Disassembly.ofWord word)
  executed : ∀ m, ∃ a m',
    (ofWord word).execute m = .error (.unknownInstruction (word % 65536) a) m'

variable {word : Int} {w : Nat} (hw : word % 65536 = w)

include hw

theorem accepted_of_some {o : Operation} (ho : (ofWord w).operation? = some o) :
    Accepted word (ofWord word) := by
  have hlt : w < 65536 := by omega
  have hr := ((operation?_eq_some_iff hlt).1 ho).2.inRange
  -- an error of the instruction is a fault of its operation
  have hfault : ∀ m f m', (ofWord w).execute m = .error f m' → o.fault? m = some f := by
    intro m f m' h
    rw [execute_of_some ho, Operation.execute_eq hr, Operation.outcome] at h
    cases hf : o.fault? m with
    | none => rw [hf] at h; cases h
    | some g => rw [hf] at h; cases h; rfl
  have hlisted : Disassembly.ofWord word = (ofWord w).text := by
    rw [Disassembly.ofWord, decode_of_emod hw, decode_of_some ho]
  rw [ofWord_of_emod hw]
  exact {
    masked := by rw [ofWord_eq hlt, hw]
    whole := by
      rw [ofWord_eq hlt]
      show (w : Int) = (w / 4096 : Nat) * 4096 + (w % 4096 : Nat)
      omega
    low := by
      rw [ofWord_eq hlt]
      show ((w % 4096 : Nat) : Int) = (w / 256 % 16 : Nat) * 256 + (w % 256 : Nat)
      omega
    lower := by
      rw [ofWord_eq hlt]
      show ((w % 256 : Nat) : Int) = (w / 16 % 16 : Nat) * 16 + (w % 16 : Nat)
      omega
    digits := by
      rw [ofWord_eq hlt]
      have hop : IsNibble (w / 4096 : Nat) := ⟨Int.natCast_nonneg _, by omega⟩
      exact ⟨hop, isNibble_mod _, isNibble_mod _, isNibble_mod _⟩
    byte := by
      rw [ofWord_eq hlt]
      exact isByte_mod _
    address := by
      rw [ofWord_eq hlt]
      exact isAddress_mod _
    name := by
      rw [mnemonic_of_some ho]
      exact o.mnemonic_mem_mnemonics
    named := by
      intro family h
      rw [mnemonic_of_some ho] at h
      exact Operation.placeholder_not_mem_mnemonics family (h ▸ o.mnemonic_mem_mnemonics)
    listed := hlisted
    text := by
      rw [text_of_some ho]
      exact o.not_shows_text
    known := by
      intro m v a m' h
      exact Machine.fault?_ne_unknownInstruction m o v a (hfault m _ m' h)
    inside := by
      intro m access m' h
      exact Machine.fault?_ne_noSuchRegister m o access (hfault m _ m' h) }

theorem refused_of_none (ho : (ofWord w).operation? = none) (address : Option Int) :
    Refused word address (.unknownInstruction w address) := by
  have hlt : w < 65536 := by omega
  exact {
    fault := by rw [hw]
    name := by
      rw [ofWord_of_emod hw]
      exact ⟨_, mnemonic_of_none ho⟩
    listed := by
      rw [Disassembly.ofWord, decode_of_emod hw, decode_word_of_none hlt ho]
      exact Disassembly.showsData_data word
    executed := by
      intro m
      have hx : IsNibble (ofWord w).x := by
        rw [ofWord_eq hlt]
        exact isNibble_mod _
      have hy : IsNibble (ofWord w).y := by
        rw [ofWord_eq hlt]
        exact isNibble_mod _
      have hword : (ofWord w).word = w := by rw [ofWord_eq hlt]
      have hrefused := execute_of_none ho hx hy m
      rw [hword] at hrefused
      rw [ofWord_of_emod hw, hw]
      exact ⟨_, _, hrefused⟩ }

omit hw

/-- The words of the table are accepted and all others are refused, by everybody. -/
theorem decode_spec (word : Int) (address : Option Int) :
    ((∃ i, decode word address = .ok i) ↔ IsInstruction (word % 65536).toNat) ∧
      (∀ i, decode word address = .ok i → Accepted word i) ∧
      ∀ f, decode word address = .error f → Refused word address f := by
  obtain ⟨w, hw⟩ : ∃ w : Nat, word % 65536 = w := ⟨(word % 65536).toNat, by omega⟩
  have hlt : w < 65536 := by omega
  rw [hw, Int.toNat_natCast, isInstruction_iff hlt, decode_of_emod hw]
  -- what each of them does is known once it is known whether the fields select an operation
  cases ho : (ofWord w).operation? with
  | none =>
      rw [decode_word_of_none hlt ho]
      refine ⟨?_, ?_, ?_⟩
      · constructor
        · rintro ⟨i, hi⟩
          cases hi
        · rintro ⟨o, hsome⟩
          cases hsome
      · intro i hi
        cases hi
      · intro f hf
        cases hf
        exact refused_of_none hw ho address
  | some o =>
      rw [decode_of_some ho]
      refine ⟨iff_of_true ⟨_, rfl⟩ ⟨o, rfl⟩, ?_, ?_⟩
      · intro i hi
        cases hi
        rw [← ofWord_of_emod hw]
        exact accepted_of_some hw ho
      · intro f hf
        cases hf

/-- Two negative words, of which one is an instruction below its low sixteen bits and
the other is none. -/
theorem decode_spec_negative :
    (∃ i, decode (-0xF9B) none = .ok i ∧ i.word = 0xF065 ∧ Accepted (-0xF9B) i) ∧
      ∃ f, decode (-1) (some 0x200) = .error f ∧
        f = .unknownInstruction 0xFFFF (some 0x200) ∧ Refused (-1) (some 0x200) f := by
  obtain ⟨-, haccepted, -⟩ := decode_spec (-0xF9B) none
  obtain ⟨-, -, hrefused⟩ := decode_spec (-1) (some 0x200)
  exact ⟨⟨_, rfl, rfl, haccepted _ rfl⟩, ⟨_, rfl, rfl, hrefused _ rfl⟩⟩

end Instruction

end ChipEight
