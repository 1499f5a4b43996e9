import ChipEight.Instruction.Disassembly
import ChipEight.Proofs.Instruction.Pattern
import ChipEight.Proofs.Numeral.Hex
import Mathlib.Data.List.Forall2

/-!
# Listings read back

A listing names an instruction and its operands, and what it writes can be read
back: cut the line at its blanks, tell each operand by its first characters, and
look the name up together with the kinds of its operands. Neither the name alone
nor the operands alone would do. Eleven instructions are called `LD`, and only
what they are applied to tells them apart.

Reading gives the operation again, except for the second register of a shift,
which a listing leaves out. `canonical` is the operation with that register
forgotten, and `read_text` is the round trip. So two operations with the same
text are the same operation, or shifts of the same register.

The reader is meant for lines that a listing wrote. What it makes of other text
says nothing.
-/

namespace ChipEight

open Numeral (hex ofHex)

/-- An operand of a line: a register, a number in either notation, or one of the
fixed names. -/
inductive Operand where
  | register (x : Int)
  | value (v : Int)
  | rows (n : Int)
  | index
  | delay
  | sound
  | key
  | glyph
  | digits
  | block
  deriving DecidableEq, Repr

/-- Tells an operand by its characters. -/
def Operand.read : List Char → Operand
  | ['I'] => index
  | ['D', 'T'] => delay
  | ['S', 'T'] => sound
  | ['K'] => key
  | ['F'] => glyph
  | ['B'] => digits
  | ['[', 'I', ']'] => block
  | 'V' :: ds => register (ofHex (String.ofList ds))
  | '0' :: 'x' :: ds => value (ofHex (String.ofList ds))
  | ds => rows (Nat.ofDigitChars 10 ds 0)

/-- The operation of a name and its operands. -/
def Operation.ofParts? (name : String) (operands : List Operand) : Option Operation :=
  match name, operands with
  | "CLS", [] => some clearScreen
  | "RET", [] => some ret
  | "JP", [.value a] => some (jump a)
  | "JP", [.register _, .value a] => some (jumpOffset a)
  | "CALL", [.value a] => some (call a)
  | "SE", [.register x, .value v] => some (skip (.equalsByte x v))
  | "SE", [.register x, .register y] => some (skip (.equalsRegister x y))
  | "SNE", [.register x, .value v] => some (skip (.differsFromByte x v))
  | "SNE", [.register x, .register y] => some (skip (.differsFromRegister x y))
  | "SKP", [.register x] => some (skip (.keyHeld x))
  | "SKNP", [.register x] => some (skip (.keyNotHeld x))
  | "LD", [.register x, .value v] => some (loadByte x v)
  | "LD", [.register x, .register y] => some (arithmetic .copy x y)
  | "LD", [.index, .value a] => some (loadIndex a)
  | "LD", [.register x, .delay] => some (readDelay x)
  | "LD", [.register x, .key] => some (awaitKey x)
  | "LD", [.delay, .register x] => some (setDelay x)
  | "LD", [.sound, .register x] => some (setSound x)
  | "LD", [.glyph, .register x] => some (pointAtGlyph x)
  | "LD", [.digits, .register x] => some (storeDigits x)
  | "LD", [.block, .register x] => some (storeRegisters x)
  | "LD", [.register x, .block] => some (loadRegisters x)
  | "ADD", [.register x, .value v] => some (addByte x v)
  | "ADD", [.register x, .register y] => some (arithmetic .add x y)
  | "ADD", [.index, .register x] => some (addIndex x)
  | "OR", [.register x, .register y] => some (arithmetic .or x y)
  | "AND", [.register x, .register y] => some (arithmetic .and x y)
  | "XOR", [.register x, .register y] => some (arithmetic .xor x y)
  | "SUB", [.register x, .register y] => some (arithmetic .sub x y)
  | "SUBN", [.register x, .register y] => some (arithmetic .subFrom x y)
  | "SHR", [.register x] => some (arithmetic .shiftRight x 0)
  | "SHL", [.register x] => some (arithmetic .shiftLeft x 0)
  | "RND", [.register x, .value v] => some (random x v)
  | "DRW", [.register x, .register y, .rows n] => some (draw x y n)
  | _, _ => none

/-- The operation with the register forgotten that a shift does not use. -/
def Operation.canonical : Operation → Operation
  | arithmetic f x y => arithmetic f x (if f.isShift then 0 else y)
  | o => o

namespace Assembly

/-- The words of a line, without the commas. -/
def words (text : String) : List (List Char) :=
  (text.toList.filter fun c => c ≠ ',').splitOn ' '

/-- Reads a line that a listing wrote. -/
def read (text : String) : Option Operation :=
  match words text with
  | [] => none
  | name :: operands => Operation.ofParts? (String.ofList name) (operands.map Operand.read)

/-- Text that takes part in a line as one word. -/
def Plain (cs : List Char) : Prop := ' ' ∉ cs ∧ ',' ∉ cs

instance (cs : List Char) : Decidable (Plain cs) :=
  inferInstanceAs (Decidable (_ ∧ _))

/-- Text that reads as an operand. -/
def Reads (s : String) (p : Operand) : Prop := Plain s.toList ∧ Operand.read s.toList = p

/-! ## A line -/

theorem filter_of_plain {cs : List Char} (h : Plain cs) :
    cs.filter (fun c => c ≠ ',') = cs := by
  rw [List.filter_eq_self]
  intro c hc
  exact decide_eq_true fun he => h.2 (he ▸ hc)

theorem filter_intercalate {ws : List (List Char)} (h : ∀ w ∈ ws, Plain w) :
    ([',', ' '].intercalate ws).filter (fun c => c ≠ ',') = [' '].intercalate ws := by
  induction ws with
  | nil => rfl
  | cons w rest ih =>
      have hw := filter_of_plain (h w List.mem_cons_self)
      have hrest := ih fun v hv => h v (List.mem_cons_of_mem w hv)
      cases rest with
      | nil =>
          rw [List.intercalate_singleton, List.intercalate_singleton]
          exact hw
      | cons v rest =>
          rw [List.intercalate_cons_cons, List.intercalate_cons_cons, List.filter_append,
            List.filter_append, hrest, hw]
          rfl

theorem toList_line (name : String) (operands : List String) :
    (Disassembly.line name operands).toList =
      name.toList ++ ' ' :: [',', ' '].intercalate (operands.map String.toList) := by
  rw [Disassembly.line, String.toList_append, String.toList_append,
    String.toList_intercalate, List.append_assoc]
  rfl

/-- The words of a line are its name and its operands. -/
theorem words_line {name : String} (hn : Plain name.toList) {operands : List String}
    (ho : ∀ s ∈ operands, Plain s.toList) (hne : operands ≠ []) :
    words (Disassembly.line name operands) =
      name.toList :: operands.map String.toList := by
  have hwords : ∀ w ∈ operands.map String.toList, Plain w := by
    intro w hw
    obtain ⟨s, hs, rfl⟩ := List.mem_map.1 hw
    exact ho s hs
  have hblank : ∀ w ∈ operands.map String.toList, ' ' ∉ w := fun w hw => (hwords w hw).1
  have hne' : operands.map String.toList ≠ [] := fun h => hne (List.map_eq_nil_iff.1 h)
  -- the commas go first, and then every blank that is left is a place to cut
  have hfilter : (' ' :: [',', ' '].intercalate (operands.map String.toList)).filter
      (fun c => c ≠ ',') = ' ' :: [' '].intercalate (operands.map String.toList) := by
    rw [← filter_intercalate hwords]
    rfl
  rw [words, toList_line, List.filter_append, filter_of_plain hn, hfilter,
    List.splitOn_append_cons_self_of_not_mem hn.1,
    List.splitOn_intercalate ' ' hblank hne']

/-- A line reads as its name applied to what its operands read as. -/
theorem read_line {name s : String} {p : Operand} {operands : List String}
    {ps : List Operand} (hn : Plain name.toList) (hs : Reads s p)
    (h : List.Forall₂ Reads operands ps) :
    read (Disassembly.line name (s :: operands)) = Operation.ofParts? name (p :: ps) := by
  have hplain : ∀ t ∈ operands, Plain t.toList := by
    induction h with
    | nil => exact fun _ ht => absurd ht List.not_mem_nil
    | cons ht _ ih => exact List.forall_mem_cons.2 ⟨ht.1, ih⟩
  have hread : (operands.map String.toList).map Operand.read = ps := by
    clear hplain
    induction h with
    | nil => rfl
    | cons ht _ ih => rw [List.map_cons, List.map_cons, ht.2, ih]
  have hwords := words_line hn (List.forall_mem_cons.2 ⟨hs.1, hplain⟩) (List.cons_ne_nil _ _)
  simp only [read, hwords, List.map_cons, hs.2, hread, String.ofList_toList]

/-! ## Operands -/

theorem plain_of_digits {cs : List Char}
    (h : ∀ c ∈ cs, ∃ d < 16, c = Numeral.hexDigit d) : Plain cs := by
  have hdigit : ∀ d < 16, Numeral.hexDigit d ≠ ' ' ∧ Numeral.hexDigit d ≠ ',' := by decide
  constructor
  · intro hc
    obtain ⟨d, hd, he⟩ := h _ hc
    exact (hdigit d hd).1 he.symm
  · intro hc
    obtain ⟨d, hd, he⟩ := h _ hc
    exact (hdigit d hd).2 he.symm

theorem Plain.append {cs ds : List Char} (h : Plain cs) (h' : Plain ds) :
    Plain (cs ++ ds) := by
  simp only [Plain, List.mem_append, not_or]
  exact ⟨⟨h.1, h'.1⟩, ⟨h.2, h'.2⟩⟩

theorem plain_hex {v : Int} (hv : 0 ≤ v) (width : Nat) : Plain (hex width v).toList :=
  plain_of_digits fun _ hc => Numeral.exists_digit_of_mem_hex hv hc

theorem reads_register {x : Int} (hx : IsNibble x) :
    Reads (Disassembly.registerName x) (.register x) := by
  have hl : (Disassembly.registerName x).toList = 'V' :: (hex 1 x).toList := by
    rw [Disassembly.registerName, String.toList_append]
    rfl
  refine ⟨?_, ?_⟩
  · rw [hl]
    exact Plain.append (show Plain ['V'] by decide) (plain_hex hx.1 1)
  · rw [hl]
    show Operand.register (ofHex (String.ofList (hex 1 x).toList)) = _
    rw [String.ofList_toList, Numeral.ofHex_hex hx.1]

theorem reads_hex {v : Int} (hv : 0 ≤ v) (width : Nat) :
    Reads ("0x" ++ hex width v) (.value v) := by
  have hl : ("0x" ++ hex width v).toList = '0' :: 'x' :: (hex width v).toList := by
    rw [String.toList_append]
    rfl
  refine ⟨?_, ?_⟩
  · rw [hl]
    exact Plain.append (show Plain ['0', 'x'] by decide) (plain_hex hv width)
  · rw [hl]
    show Operand.value (ofHex (String.ofList (hex width v).toList)) = _
    rw [String.ofList_toList, Numeral.ofHex_hex hv]

theorem reads_decimal {n : Int} (hn : IsNibble n) : Reads (Numeral.decimal n) (.rows n) := by
  have hall : ∀ k < 16, Plain (Numeral.decimal (k : Nat)).toList ∧
      Operand.read (Numeral.decimal (k : Nat)).toList = .rows (k : Nat) := by decide
  obtain ⟨k, rfl⟩ := Int.eq_ofNat_of_zero_le hn.1
  exact hall k (by have := hn.2; omega)

end Assembly

/-! ## The round trip -/

theorem Condition.read_text {c : Condition} (hc : c.InRange) :
    Assembly.read (Operation.text (.skip c)) = some (.skip c) := by
  have hname : Assembly.Plain c.mnemonic.toList := by
    cases c <;> (rw [Condition.mnemonic]; decide)
  cases c with
  | equalsByte x v | differsFromByte x v =>
      exact Assembly.read_line hname (Assembly.reads_register hc.1)
        (.cons (Assembly.reads_hex hc.2.1 2) .nil)
  | equalsRegister x y | differsFromRegister x y =>
      exact Assembly.read_line hname (Assembly.reads_register hc.1)
        (.cons (Assembly.reads_register hc.2) .nil)
  | keyHeld x | keyNotHeld x =>
      exact Assembly.read_line hname (Assembly.reads_register hc) .nil

namespace Operation

open Assembly

/-- What a listing writes for an operation reads as that operation, but for the
register that a shift does not use. -/
theorem read_text {o : Operation} (ho : o.InRange) : read o.text = some o.canonical := by
  cases o with
  | clearScreen | ret => rfl
  | skip c => exact Condition.read_text ho
  | jump a | call a => exact read_line (by decide) (reads_hex ho.1 3) .nil
  | loadByte x v | addByte x v | random x v =>
      exact read_line (by decide) (reads_register ho.1) (.cons (reads_hex ho.2.1 2) .nil)
  | arithmetic f x y =>
      cases f with
      | shiftRight | shiftLeft => exact read_line (by decide) (reads_register ho.1) .nil
      | _ =>
          exact read_line (by decide) (reads_register ho.1)
            (.cons (reads_register ho.2) .nil)
  | loadIndex a | jumpOffset a =>
      exact read_line (by decide) ⟨by decide, rfl⟩ (.cons (reads_hex ho.1 3) .nil)
  | draw x y n =>
      exact read_line (by decide) (reads_register ho.1)
        (.cons (reads_register ho.2.1) (.cons (reads_decimal ho.2.2) .nil))
  | readDelay x | awaitKey x | loadRegisters x =>
      exact read_line (by decide) (reads_register ho) (.cons ⟨by decide, rfl⟩ .nil)
  | setDelay x | setSound x | addIndex x | pointAtGlyph x | storeDigits x
  | storeRegisters x =>
      exact read_line (by decide) ⟨by decide, rfl⟩ (.cons (reads_register ho) .nil)

example : read "LD [I], VA" = some (.storeRegisters 10) := rfl

/-- A name says no more about a shift than its listing does. -/
theorem mnemonic_canonical (o : Operation) : o.canonical.mnemonic = o.mnemonic := by
  cases o <;> rfl

theorem InRange.canonical {o : Operation} (ho : o.InRange) : o.canonical.InRange := by
  cases o with
  | arithmetic f x y =>
      refine ⟨ho.1, ?_⟩
      split
      · exact ⟨by decide, by decide⟩
      · exact ho.2
  | _ => exact ho

end Operation

/-! ## Words that are data -/

namespace Assembly

/-- The text of a data word, which has a line's form and the name of no operation. -/
theorem reads_word {w : Int} (hw : 0 ≤ w) :
    Reads (Disassembly.wordText w) (.value w) := reads_hex hw 4

theorem read_data {w : Int} (hw : 0 ≤ w) :
    read ("DW " ++ Disassembly.wordText w) = none := by
  have hline : "DW " ++ Disassembly.wordText w =
      Disassembly.line "DW" [Disassembly.wordText w] := by
    rw [Disassembly.line, String.intercalate_singleton]
    rfl
  rw [hline, read_line (by decide) (reads_word hw) .nil]
  rfl

end Assembly

end ChipEight
