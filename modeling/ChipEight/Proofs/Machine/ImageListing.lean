import ChipEight.Proofs.Machine.Grammar

/-!
# A listing shows what the machine fetches

A listing is written without a machine. It cuts the image into words and counts the
addresses itself, and its last line may be a byte for which there was no partner. The
machine has the image in memory, behind the glyphs, and reads a word wherever its
program counter stands. This file is about the two being the same words at the same
addresses.

The first half needs no machine: the lines are numbered without a gap, and the bytes
behind them, put together again, are the image. It goes by the recursion of the
listing, two bytes at a time, and everything about the `i`-th line comes from
`getElem?_ofImage`. The second half puts the same image into a machine. A line of two
bytes is the word that is read at its address, and it says `DW` for exactly those
words that the machine, standing there, does not know.
-/

namespace ChipEight

namespace Disassembly

/-- The line of a word. -/
def Line.ofWord (address : Int) (word : Nat) : Line :=
  ⟨address, word, Disassembly.ofWord word⟩

/-- The line of a byte that has no partner. -/
def Line.ofByte (address : Int) (byte : UInt8) : Line :=
  ⟨address, byte.toNat, "DB " ++ byteText byte.toNat⟩

/-- The two bytes of a word, high byte first. -/
def Line.pair (l : Line) : List UInt8 := [lowByte (l.word / 256 : Nat), lowByte l.word]

/-- The byte of a line that has one. -/
def Line.single (l : Line) : UInt8 := lowByte l.word

/-- The bytes behind a listing whose first `n` lines show two bytes each. -/
def assembled (lines : List Line) (n : Nat) : List UInt8 :=
  (lines.take n).flatMap Line.pair ++ (lines.drop n).map Line.single

/-- The word of two bytes of an image. -/
def wordOf (data : List UInt8) (k : Nat) : Nat :=
  (data.getD k 0).toNat * 256 + (data.getD (k + 1) 0).toNat

theorem wordOf_lt (data : List UInt8) (k : Nat) : wordOf data k < 65536 := by
  have h₁ := (data.getD k 0).toNat_lt
  have h₂ := (data.getD (k + 1) 0).toNat_lt
  rw [wordOf]
  omega

theorem pair_ofWord (a : Int) (high low : UInt8) :
    (Line.ofWord a (high.toNat * 256 + low.toNat)).pair = [high, low] := by
  have h₁ := high.toNat_lt
  have h₂ := low.toNat_lt
  have hhigh := lowByte_toNat ((high.toNat * 256 + low.toNat) / 256 : Nat)
  have hlow := lowByte_toNat (high.toNat * 256 + low.toNat : Nat)
  have hfirst : lowByte ((high.toNat * 256 + low.toNat) / 256 : Nat) = high :=
    UInt8.toNat.inj (by omega)
  have hsecond : lowByte (high.toNat * 256 + low.toNat : Nat) = low :=
    UInt8.toNat.inj (by omega)
  show [lowByte ((high.toNat * 256 + low.toNat) / 256 : Nat),
    lowByte (high.toNat * 256 + low.toNat : Nat)] = [high, low]
  rw [hfirst, hsecond]

theorem single_ofByte (a : Int) (b : UInt8) : (Line.ofByte a b).single = b :=
  lowByte_byteValue b

/-! ## Line by line -/

theorem ofImage_cons_cons (base : Int) (high low : UInt8) (rest : List UInt8) :
    ofImage base (high :: low :: rest) =
      Line.ofWord base (high.toNat * 256 + low.toNat) :: ofImage (base + 2) rest := rfl

theorem length_ofImage (base : Int) (data : List UInt8) :
    (ofImage base data).length = (data.length + 1) / 2 := by
  fun_induction ofImage base data with
  | case1 | case2 => simp
  | case3 base high low rest w ih =>
      simp only [List.length_cons, ih]
      omega

/-- The bytes behind a listing are the image. -/
theorem assembled_ofImage (base : Int) (data : List UInt8) :
    assembled (ofImage base data) (data.length / 2) = data := by
  fun_induction ofImage base data with
  | case1 => rfl
  | case2 base last =>
      rw [List.length_singleton]
      exact congrArg (fun b => [b]) (single_ofByte base last)
  | case3 base high low rest w ih =>
      have hhalf : (high :: low :: rest).length / 2 = rest.length / 2 + 1 := by
        simp only [List.length_cons]
        omega
      rw [hhalf, assembled, List.take_succ_cons, List.drop_succ_cons, List.flatMap_cons,
        List.append_assoc]
      show (Line.ofWord base (high.toNat * 256 + low.toNat)).pair ++
        assembled (ofImage (base + 2) rest) (rest.length / 2) = _
      rw [pair_ofWord, ih]
      rfl

/-- The line of the `i`-th word. -/
theorem getElem?_ofImage (base : Int) (data : List UInt8) {i : Nat}
    (hi : i < data.length / 2) :
    (ofImage base data)[i]? = some (.ofWord (base + 2 * i) (wordOf data (2 * i))) := by
  -- one line less is two bytes less, and a base that is higher by two
  induction i generalizing base data with
  | zero =>
      match data with
      | [] | [_] => simp at hi
      | high :: low :: rest =>
          rw [ofImage_cons_cons, Int.natCast_zero, Int.mul_zero, Int.add_zero]
          rfl
  | succ i ih =>
      match data with
      | [] | [_] => simp at hi
      | high :: low :: rest =>
          have hrest : i < rest.length / 2 := by
            simp only [List.length_cons] at hi
            omega
          have haddress : base + 2 + 2 * (i : Int) = base + 2 * (i + 1 : Nat) := by omega
          rw [ofImage_cons_cons, List.getElem?_cons_succ, ih (base + 2) rest hrest,
            haddress]
          rfl

theorem getElem?_ofImage_last (base : Int) (data : List UInt8)
    (hodd : data.length % 2 = 1) :
    ∃ b, (ofImage base data)[data.length / 2]? =
      some (.ofByte (base + 2 * (data.length / 2 : Nat)) b) := by
  fun_induction ofImage base data with
  | case1 => simp at hodd
  | case2 base last =>
      refine ⟨last, ?_⟩
      rw [List.length_singleton]
      show some (Line.ofByte base last) = some (.ofByte (base + 0) last)
      rw [Int.add_zero]
  | case3 base high low rest w ih =>
      obtain ⟨b, hb⟩ := ih (by simp only [List.length_cons] at hodd; omega)
      have hhalf : (high :: low :: rest).length / 2 = rest.length / 2 + 1 := by
        simp only [List.length_cons]
        omega
      have haddress : base + 2 + 2 * (rest.length / 2 : Nat) =
          base + 2 * (rest.length / 2 + 1 : Nat) := by omega
      rw [haddress] at hb
      refine ⟨b, ?_⟩
      rw [hhalf, List.getElem?_cons_succ]
      exact hb

/-- What a listing of an image is like. There is a line for every two bytes and one
for a byte left over; the addresses go up by two from the base; each line shows a word,
the last of an odd image a byte; and these words and that byte are the image. -/
structure Shows (base : Int) (data : List UInt8) (lines : List Line) : Prop where
  length : lines.length = (data.length + 1) / 2
  address : ∀ (i : Nat) l, lines[i]? = some l → l.address = base + 2 * i
  words : ∀ (i : Nat) l, i < data.length / 2 → lines[i]? = some l →
    l.word < 65536 ∧ l.text = ofWord l.word
  last : ∀ (i : Nat) l, data.length / 2 ≤ i → lines[i]? = some l →
    l.word < 256 ∧ l.text = "DB " ++ byteText l.word
  bytes : assembled lines (data.length / 2) = data

theorem shows_ofImage (base : Int) (data : List UInt8) :
    Shows base data (ofImage base data) := by
  have hlength := length_ofImage base data
  -- a line behind the words is the one of the byte left over
  have hlast : ∀ (i : Nat) l, data.length / 2 ≤ i → (ofImage base data)[i]? = some l →
      i = data.length / 2 ∧ ∃ b, l = Line.ofByte (base + 2 * i) b := by
    intro i l hi hl
    obtain ⟨hlt, -⟩ := List.getElem?_eq_some_iff.1 hl
    obtain rfl : i = data.length / 2 := by omega
    obtain ⟨b, hb⟩ := getElem?_ofImage_last base data (by omega)
    exact ⟨rfl, b, Option.some.inj (hl.symm.trans hb)⟩
  exact {
    length := hlength
    address := by
      intro i l hl
      by_cases hi : i < data.length / 2
      · rw [getElem?_ofImage base data hi] at hl
        cases hl
        rfl
      · obtain ⟨-, b, rfl⟩ := hlast i l (Nat.le_of_not_lt hi) hl
        rfl
    words := by
      intro i l hi hl
      rw [getElem?_ofImage base data hi] at hl
      cases hl
      exact ⟨wordOf_lt data (2 * i), rfl⟩
    last := by
      intro i l hi hl
      obtain ⟨-, b, rfl⟩ := hlast i l hi hl
      exact ⟨b.toNat_lt, rfl⟩
    bytes := assembled_ofImage base data }

end Disassembly

namespace Machine

open Disassembly

/-! ## In a machine -/

/-- Where a word can be fetched, the machine does not know it if the listing shows it as
data. -/
theorem step_unknown_iff {m : Machine} (hpc : 0 ≤ m.pc ∧ m.pc ≤ 4094) :
    (∃ w a m', step m = .error (.unknownInstruction w a) m') ↔
      ShowsData (Disassembly.ofWord m.word) := by
  have hfits := fits_pc_iff.2 hpc
  cases ho : m.operation? with
  | none =>
      have hnone : (Instruction.ofWord m.word).operation? = none := by
        rwa [operation?, if_pos hfits] at ho
      rw [step_of_none ho, fetchFault, if_pos hfits, ofWord_of_none m.word_lt hnone]
      exact iff_of_true ⟨_, _, _, rfl⟩ (showsData_data _)
  | some o =>
      rw [ofWord_of_some (instruction_operation? ho)]
      refine iff_of_false ?_ o.not_shows_text.1
      rintro ⟨w, a, m', hs⟩
      rcases step_eq_error_iff.1 hs with ⟨hnone, -, -⟩ | ⟨o', -, hf, -⟩
      · rw [ho] at hnone
        cases hnone
      · exact fault?_ne_unknownInstruction m o' w a hf

/-- A machine that is about to fetch has what a line of a listing shows. -/
structure Fetched (m : Machine) (l : Line) : Prop where
  word : m.memory.read16 l.address = .ok l.word
  unknown : (∃ w a m', step { m with pc := l.address } = .error (.unknownInstruction w a) m') ↔
    ShowsData l.text

theorem fetched_of_ofImage {m : Machine} {data : List UInt8}
    (hm : m.memory = initialMemory data) (hl : data.length ≤ Image.maxSize) {i : Nat}
    {l : Line} (hi : i < data.length / 2) (hline : (ofImage Image.offset data)[i]? = some l) :
    m.Fetched l := by
  rw [getElem?_ofImage _ data hi] at hline
  cases hline
  obtain ⟨n, hn⟩ : ∃ n : Machine, n = { m with pc := Image.offset + 2 * (i : Int) } :=
    ⟨_, rfl⟩
  have hmem : n.memory = initialMemory data := by rw [hn, ← hm]
  have hpc : n.pc = (Image.offset + 2 * i : Nat) := by rw [hn]; rfl
  have hword : n.word = wordOf data (2 * i) :=
    word_of_image data hmem hl (2 * i) hpc (by omega)
  have hin : 0 ≤ n.pc ∧ n.pc ≤ 4094 := by
    have hl : data.length ≤ 3584 := hl
    rw [hpc, Image.offset]
    omega
  have hread := n.read16_pc
  rw [if_pos (fits_pc_iff.2 hin), hword] at hread
  have hunknown := step_unknown_iff hin
  rw [hword] at hunknown
  rw [hn] at hread hunknown
  exact ⟨hread, hunknown⟩

/-- A listing is the image, cut into words. Where the image fits, a new machine has each
of these words at the address of its line, and executes all of them but those that are
listed as data. -/
theorem listing_shows (base : Int) (data : List UInt8) :
    Shows base data (ofImage base data) ∧
      (data.length ≤ 3584 → ∀ keys random output rate,
        ∃ m, Machine.new data keys random output rate = .ok m ∧
          ∀ i l, i < data.length / 2 → (ofImage Image.offset data)[i]? = some l →
            m.Fetched l) := by
  refine ⟨shows_ofImage base data, ?_⟩
  intro hl keys random output rate
  refine ⟨_, new_eq hl keys random output rate, ?_⟩
  intro i l hi hline
  exact fetched_of_ofImage rfl hl hi hline

/-- An image of an instruction, a word that is none, and a byte. -/
theorem listing_shows_odd :
    ([0x00, 0xE0, 0xFF, 0xFF, 0x12] : List UInt8).length ≤ 3584 ∧
      (ofImage Image.offset [0x00, 0xE0, 0xFF, 0xFF, 0x12]).map Line.text =
        ["CLS", "DW 0xFFFF", "DB 0x12"] ∧
      ∃ m, Machine.new [0x00, 0xE0, 0xFF, 0xFF, 0x12] (.scripted [none]) (.rotating [])
          .discarding (.whole 0) = .ok m ∧
        m.Fetched ⟨0x200, 0x00E0, "CLS"⟩ ∧ m.Fetched ⟨0x202, 0xFFFF, "DW 0xFFFF"⟩ := by
  have hl : ([0x00, 0xE0, 0xFF, 0xFF, 0x12] : List UInt8).length ≤ 3584 := by decide
  obtain ⟨-, hall⟩ := listing_shows 0x200 [0x00, 0xE0, 0xFF, 0xFF, 0x12]
  obtain ⟨m, hm, hfetched⟩ := hall hl (.scripted [none]) (.rotating []) .discarding (.whole 0)
  refine ⟨hl, by decide, m, hm, ?_, ?_⟩
  · exact hfetched 0 _ (by decide) (by decide)
  · exact hfetched 1 _ (by decide) (by decide)

end Machine

end ChipEight
