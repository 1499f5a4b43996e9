import ChipEight.Instruction.Disassembly
import ChipEight.Instruction.Mnemonic
import ChipEight.Instruction.Operation

/-!
# The operation of an instruction

Four parts of the program look at the fields of an instruction to find out which one it is: the
decoder has sets of selectors, the names have tables, and the listing and the executor have
branches. Nothing makes them agree but the numbers that are written in each of them.

Here the fields are read once more, and what comes of it is the operation itself, or that there
is none. The program has no use for this reading. It is what the four are compared with, each
by itself: a selector set holds what selects an operation, and a table or a branch has for the
fields what an operation is called, or how it is written. Where the fields select no operation,
all that is left to say is which family they belong to.
-/

namespace ChipEight

open Disassembly

/-! ## Names and texts of operations -/

namespace Arithmetic

/-- Whether the second register plays no part. -/
def isShift : Arithmetic → Bool
  | shiftRight => true
  | shiftLeft => true
  | _ => false

/-- The name in listings and statistics. -/
def name : Arithmetic → String
  | copy => "LD"
  | or => "OR"
  | and => "AND"
  | xor => "XOR"
  | add => "ADD"
  | sub => "SUB"
  | shiftRight => "SHR"
  | subFrom => "SUBN"
  | shiftLeft => "SHL"

end Arithmetic

/-- The name of a skip. -/
def Condition.mnemonic : Condition → String
  | equalsByte .. => "SE"
  | differsFromByte .. => "SNE"
  | equalsRegister .. => "SE"
  | differsFromRegister .. => "SNE"
  | keyHeld _ => "SKP"
  | keyNotHeld _ => "SKNP"

/-- The operands of a skip, as they are written. -/
def Condition.operands : Condition → List String
  | equalsByte x v => [registerName x, byteText v]
  | differsFromByte x v => [registerName x, byteText v]
  | equalsRegister x y => [registerName x, registerName y]
  | differsFromRegister x y => [registerName x, registerName y]
  | keyHeld x => [registerName x]
  | keyNotHeld x => [registerName x]

namespace Operation

/-- The name of an operation. -/
def mnemonic : Operation → String
  | clearScreen => "CLS"
  | ret => "RET"
  | jump _ => "JP"
  | call _ => "CALL"
  | skip c => c.mnemonic
  | loadByte .. => "LD"
  | addByte .. => "ADD"
  | arithmetic f .. => f.name
  | loadIndex _ => "LD I"
  | jumpOffset _ => "JP V0"
  | random .. => "RND"
  | draw .. => "DRW"
  | readDelay _ => "LD Vx,DT"
  | awaitKey _ => "LD Vx,K"
  | setDelay _ => "LD DT,Vx"
  | setSound _ => "LD ST,Vx"
  | addIndex _ => "ADD I,Vx"
  | pointAtGlyph _ => "LD F,Vx"
  | storeDigits _ => "LD B,Vx"
  | storeRegisters _ => "LD [I],Vx"
  | loadRegisters _ => "LD Vx,[I]"

/-- The assembly text of an operation. -/
def text : Operation → String
  | clearScreen => "CLS"
  | ret => "RET"
  | jump a => line "JP" [addressText a]
  | call a => line "CALL" [addressText a]
  | skip c => line c.mnemonic c.operands
  | loadByte x v => line "LD" [registerName x, byteText v]
  | addByte x v => line "ADD" [registerName x, byteText v]
  | arithmetic f x y =>
      line f.name (if f.isShift then [registerName x] else [registerName x, registerName y])
  | loadIndex a => line "LD" ["I", addressText a]
  | jumpOffset a => line "JP" ["V0", addressText a]
  | random x v => line "RND" [registerName x, byteText v]
  | draw x y n => line "DRW" [registerName x, registerName y, Numeral.decimal n]
  | readDelay x => line "LD" [registerName x, "DT"]
  | awaitKey x => line "LD" [registerName x, "K"]
  | setDelay x => line "LD" ["DT", registerName x]
  | setSound x => line "LD" ["ST", registerName x]
  | addIndex x => line "ADD" ["I", registerName x]
  | pointAtGlyph x => line "LD" ["F", registerName x]
  | storeDigits x => line "LD" ["B", registerName x]
  | storeRegisters x => line "LD" ["[I]", registerName x]
  | loadRegisters x => line "LD" [registerName x, "[I]"]

end Operation

/-! ## What fields select -/

/-- The families whose selector is only partly used. -/
inductive Family where
  | system
  | arithmetic
  | keys
  | misc
  deriving DecidableEq, Repr

/-- The name of an unused selector. -/
def Family.placeholder : Option Family → String
  | some .system => "SYS?"
  | some .arithmetic => "ALU?"
  | some .keys => "KEY?"
  | some .misc => "MISC?"
  | none => "UNKNOWN"

/-- The operation on two registers that a low digit selects. -/
def Arithmetic.ofSelector? (n : Int) : Option Arithmetic :=
  match n with
  | 0x0 => some copy
  | 0x1 => some or
  | 0x2 => some and
  | 0x3 => some xor
  | 0x4 => some add
  | 0x5 => some sub
  | 0x6 => some shiftRight
  | 0x7 => some subFrom
  | 0xE => some shiftLeft
  | _ => none

namespace Instruction

/-- The family an instruction belongs to, where its selector matters. -/
def family? (i : Instruction) : Option Family :=
  match i.op with
  | 0x0 => some .system
  | 0x8 => some .arithmetic
  | 0xE => some .keys
  | 0xF => some .misc
  | _ => none

/-- The screen and return operations, selected by the low byte. -/
def systemOperation? (i : Instruction) : Option Operation :=
  match i.nn with
  | 0xE0 => some .clearScreen
  | 0xEE => some .ret
  | _ => none

/-- The key skips, selected by the low byte. -/
def keyOperation? (i : Instruction) : Option Operation :=
  match i.nn with
  | 0x9E => some (.skip (.keyHeld i.x))
  | 0xA1 => some (.skip (.keyNotHeld i.x))
  | _ => none

/-- Timers, key wait, index and block operations, selected by the low byte. -/
def miscOperation? (i : Instruction) : Option Operation :=
  match i.nn with
  | 0x07 => some (.readDelay i.x)
  | 0x0A => some (.awaitKey i.x)
  | 0x15 => some (.setDelay i.x)
  | 0x18 => some (.setSound i.x)
  | 0x1E => some (.addIndex i.x)
  | 0x29 => some (.pointAtGlyph i.x)
  | 0x33 => some (.storeDigits i.x)
  | 0x55 => some (.storeRegisters i.x)
  | 0x65 => some (.loadRegisters i.x)
  | _ => none

/-- The operation that an instruction's fields select. -/
def operation? (i : Instruction) : Option Operation :=
  match i.op with
  | 0x0 => i.systemOperation?
  | 0x1 => some (.jump i.nnn)
  | 0x2 => some (.call i.nnn)
  | 0x3 => some (.skip (.equalsByte i.x i.nn))
  | 0x4 => some (.skip (.differsFromByte i.x i.nn))
  | 0x5 => some (.skip (.equalsRegister i.x i.y))
  | 0x6 => some (.loadByte i.x i.nn)
  | 0x7 => some (.addByte i.x i.nn)
  | 0x8 => (Arithmetic.ofSelector? i.n).map fun f => .arithmetic f i.x i.y
  | 0x9 => some (.skip (.differsFromRegister i.x i.y))
  | 0xA => some (.loadIndex i.nnn)
  | 0xB => some (.jumpOffset i.nnn)
  | 0xC => some (.random i.x i.nn)
  | 0xD => some (.draw i.x i.y i.n)
  | 0xE => i.keyOperation?
  | 0xF => i.miscOperation?
  | _ => none

variable {i : Instruction} {o : Operation}

/-! ## The decoder -/

theorem isSome_systemOperation?_iff : i.systemOperation?.isSome ↔ i.nn ∈ systemSelectors := by
  unfold systemOperation?
  split <;> simp_all [systemSelectors]

theorem isSome_ofSelector?_iff {n : Int} :
    (Arithmetic.ofSelector? n).isSome ↔ n ∈ arithmeticSelectors := by
  unfold Arithmetic.ofSelector?
  split <;> simp_all [arithmeticSelectors]

theorem isSome_keyOperation?_iff : i.keyOperation?.isSome ↔ i.nn ∈ keySelectors := by
  unfold keyOperation?
  split <;> simp_all [keySelectors]

theorem isSome_miscOperation?_iff : i.miscOperation?.isSome ↔ i.nn ∈ miscSelectors := by
  unfold miscOperation?
  split <;> simp_all [miscSelectors]

/-- Why fields select no operation: the selector of their family is not used, or there is no such
family. -/
inductive Unselected (i : Instruction) : Prop where
  | system (hop : i.op = 0x0) (h : i.nn ∉ systemSelectors)
  | arithmetic (hop : i.op = 0x8) (h : i.n ∉ arithmeticSelectors)
  | keys (hop : i.op = 0xE) (h : i.nn ∉ keySelectors)
  | misc (hop : i.op = 0xF) (h : i.nn ∉ miscSelectors)
  | unknown (h : i.op < 0 ∨ 16 ≤ i.op)

theorem operation?_eq_none_iff : i.operation? = none ↔ i.Unselected := by
  rw [← Option.not_isSome_iff_eq_none]
  constructor
  · intro h
    unfold operation? at h
    split at h
    case h_1 hop => exact .system hop (mt isSome_systemOperation?_iff.2 h)
    case h_9 hop =>
      rw [Option.isSome_map] at h
      exact .arithmetic hop (mt isSome_ofSelector?_iff.2 h)
    case h_15 hop => exact .keys hop (mt isSome_keyOperation?_iff.2 h)
    case h_16 hop => exact .misc hop (mt isSome_miscOperation?_iff.2 h)
    case h_17 =>
      simp only [imp_false] at *
      exact .unknown (by omega)
    all_goals exact absurd rfl h
  · rintro (⟨hop, h⟩ | ⟨hop, h⟩ | ⟨hop, h⟩ | ⟨hop, h⟩ | h) <;> unfold operation?
    · rw [hop]
      exact mt isSome_systemOperation?_iff.1 h
    · rw [hop]
      simp only [Option.isSome_map]
      exact mt isSome_ofSelector?_iff.1 h
    · rw [hop]
      exact mt isSome_keyOperation?_iff.1 h
    · rw [hop]
      exact mt isSome_miscOperation?_iff.1 h
    · split <;> first | omega | exact Bool.false_ne_true

/-- The decoder lets pass what selects an operation. -/
theorem decode_of_some {word : Int} (h : (ofWord word).operation? = some o)
    (address : Option Int) : decode word address = .ok (ofWord word) := by
  have hused : ¬ (ofWord word).Unselected := by
    rw [← operation?_eq_none_iff, h]
    exact Option.some_ne_none o
  rw [decode, if_neg fun hand => hused (.system hand.1 hand.2),
    if_neg fun hand => hused (.arithmetic hand.1 hand.2),
    if_neg fun hand => hused (.keys hand.1 hand.2),
    if_neg fun hand => hused (.misc hand.1 hand.2)]

/-- It refuses everything else. -/
theorem decode_of_none {word : Int} (h : (ofWord word).operation? = none)
    (address : Option Int) :
    decode word address = .error (.unknownInstruction (word % 65536) address) := by
  show decode word address = .error (.unknownInstruction (ofWord word).word address)
  rw [decode]
  rcases operation?_eq_none_iff.1 h with ⟨hop, h⟩ | ⟨hop, h⟩ | ⟨hop, h⟩ | ⟨hop, h⟩ | hop
  case unknown =>
    -- the top digit of a word always is one
    have htop : (ofWord word).op = word % 65536 / 4096 := rfl
    omega
  all_goals simp [hop, h]

/-- A word that is cut to sixteen bits is refused as it stands. -/
theorem decode_word_of_none {w : Nat} (hw : w < 65536) (h : (ofWord w).operation? = none)
    (a : Option Int) : decode w a = .error (.unknownInstruction w a) := by
  have hmod : (w : Int) % 65536 = w := by omega
  rw [decode_of_none h, hmod]

/-! ## The names and the listing -/

/-- A table has no entry for what is none of its keys. -/
theorem lookup_eq_none {β : Type} {table : List (Int × β)} {k : Int} (keys : List Int)
    (hkeys : table.map Prod.fst = keys) (hk : k ∉ keys) : table.lookup k = none := by
  subst hkeys
  rw [List.lookup_eq_none_iff]
  intro p hp
  rw [bne_iff_ne]
  rintro rfl
  exact hk (List.mem_map_of_mem hp)

/-- An operation has its name in the tables and its text in the listing. -/
theorem written_of_some (h : i.operation? = some o) :
    i.mnemonic = o.mnemonic ∧ i.text? = some o.text := by
  obtain ⟨word, op, x, y, n, nn, nnn⟩ := i
  unfold operation? at h
  dsimp only at h
  split at h
  case h_1 =>
    unfold systemOperation? at h
    dsimp only at h
    split at h <;> cases h <;> exact ⟨rfl, rfl⟩
  case h_9 =>
    obtain ⟨f, hf, rfl⟩ := Option.map_eq_some_iff.1 h
    unfold Arithmetic.ofSelector? at hf
    split at hf <;> cases hf <;> exact ⟨rfl, rfl⟩
  case h_15 =>
    unfold keyOperation? at h
    dsimp only at h
    split at h <;> cases h <;> exact ⟨rfl, rfl⟩
  case h_16 =>
    unfold miscOperation? at h
    dsimp only at h
    split at h <;> cases h <;> exact ⟨rfl, rfl⟩
  case h_17 => cases h
  all_goals
    cases h
    exact ⟨rfl, rfl⟩

theorem mnemonic_of_some (h : i.operation? = some o) : i.mnemonic = o.mnemonic :=
  (written_of_some h).1

theorem text_of_some (h : i.operation? = some o) : i.text = o.text := by
  rw [text, (written_of_some h).2, Option.getD_some]

/-- Without an operation there is no name in the tables but that of the family. -/
theorem mnemonic_of_none (h : i.operation? = none) :
    i.mnemonic = Family.placeholder i.family? := by
  obtain ⟨word, op, x, y, n, nn, nnn⟩ := i
  rcases operation?_eq_none_iff.1 h with ⟨rfl, h⟩ | ⟨rfl, h⟩ | ⟨rfl, h⟩ | ⟨rfl, h⟩ | hop
  · show (systemMnemonics.lookup nn).getD _ = _
    rw [lookup_eq_none systemSelectors rfl h]
    rfl
  · show (arithmeticMnemonics.lookup n).getD _ = _
    rw [lookup_eq_none arithmeticSelectors rfl h]
    rfl
  · show (keyMnemonics.lookup nn).getD _ = _
    rw [lookup_eq_none keySelectors rfl h]
    rfl
  · show (miscMnemonics.lookup nn).getD _ = _
    rw [lookup_eq_none miscSelectors rfl h]
    rfl
  · dsimp only at hop
    have hfamily : familyMnemonics.lookup op = none := by
      refine lookup_eq_none [1, 2, 3, 4, 5, 6, 7, 9, 10, 11, 12, 13] rfl ?_
      simp
      omega
    have hnone : family? ⟨word, op, x, y, n, nn, nnn⟩ = none := by
      unfold family?
      dsimp only
      split <;> first | omega | rfl
    rw [hnone]
    unfold mnemonic
    dsimp only
    split
    case h_5 => rw [hfamily]; rfl
    all_goals omega

/-- Without an operation there is no text, but for the key family. -/
theorem text?_of_none (h : i.operation? = none) :
    i.text? = if i.op = 0xE then some (line "SKNP" [registerName i.x]) else none := by
  obtain ⟨word, op, x, y, n, nn, nnn⟩ := i
  rcases operation?_eq_none_iff.1 h with ⟨rfl, h⟩ | ⟨rfl, h⟩ | ⟨rfl, h⟩ | ⟨rfl, h⟩ | hop
  · show systemText? _ = none
    unfold systemText?
    split <;> simp_all [systemSelectors]
  · show arithmeticText? _ = none
    rw [arithmeticText?, lookup_eq_none arithmeticSelectors rfl h]
  · show some (keyText _) = _
    have hnn : nn ≠ 0x9E := by
      rintro rfl
      exact h List.mem_cons_self
    rw [keyText, if_neg hnn]
    rfl
  · show miscText? _ = none
    unfold miscText?
    dsimp only
    split <;> simp_all [miscSelectors]
  · unfold text?
    dsimp only at hop ⊢
    split
    case h_17 => exact (if_neg (by omega)).symm
    all_goals omega

end Instruction

end ChipEight
