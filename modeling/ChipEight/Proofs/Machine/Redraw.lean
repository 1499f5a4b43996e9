import ChipEight.Proofs.Display.Drawing
import ChipEight.Proofs.Machine.Frames

/-!
# A sprite drawn twice

A program erases a sprite by drawing it again. What makes this work is that a draw leaves
everything alone that a draw goes by: the rows in memory, the index and the registers with
the coordinates, as long as neither of them is the flag, which is where a draw reports. So
the second one goes through the same cells, and each of them is turned back.

The two reports belong together. The first says whether a cell was put out, and the second,
which finds on what the first had turned on, whether a cell was lit. A sprite with a set bit
does one or the other, so one of the two reports a collision.
-/

namespace ChipEight

theorem exists_bit_of_ne_zero {b : UInt8} (h : b ≠ 0) :
    ∃ c < 8, b.toNat.testBit (7 - c) = true := by
  have hne : b.toNat ≠ 0 := fun e => h (UInt8.toNat.inj e)
  obtain ⟨i, hi⟩ := Nat.exists_testBit_of_ne_zero hne
  have hlt : i < 8 := by
    refine Decidable.byContradiction fun hge => ?_
    have hpow : 2 ^ 8 ≤ 2 ^ i := Nat.pow_le_pow_right (by decide) (by omega)
    rw [Nat.testBit_lt_two_pow (Nat.lt_of_lt_of_le b.toNat_lt hpow)] at hi
    cases hi
  exact ⟨7 - i, by omega, by rwa [show 7 - (7 - i) = i by omega]⟩

/-- A set bit of a short sprite covers the cell that it lands on. -/
theorem Sprite.exists_covers {s : Sprite} (h : s.rows.length ≤ 32)
    (hbit : ∃ b ∈ s.rows, b ≠ 0) : ∃ column < 64, ∃ row < 32, s.Covers column row := by
  obtain ⟨b, hb, hne⟩ := hbit
  obtain ⟨r, hr, rfl⟩ := List.mem_iff_getElem.1 hb
  obtain ⟨c, hc, hset⟩ := exists_bit_of_ne_zero hne
  have hcolumn : ((s.x + c) % 64).toNat < 64 := by omega
  have hrow : ((s.y + r) % 32).toNat < 32 := by omega
  have hlands : s.Lands ((s.x + c) % 64).toNat ((s.y + r) % 32).toNat r c :=
    ⟨by simpa [hr] using hset, by omega, by omega⟩
  exact ⟨_, hcolumn, _, hrow, ((lands_iff h hcolumn hrow).1 ⟨⟨hr, hc⟩, hlands⟩).1⟩

/-- What is turned over twice is as it was. -/
theorem Display.drawSprite_twice (d : Display) (x y : Int) (rows : List UInt8) :
    ((d.drawSprite x y rows).1.drawSprite x y rows).1 = d := by
  apply ext_isOn
  intro i hi
  rw [drawSprite, isOn_turnAll _ _ _ hi, drawSprite, isOn_turnAll _ _ _ hi, Bool.xor_assoc,
    Bool.xor_self, Bool.xor_false]

namespace Machine

/-- The sprite that a draw is about: its corner in two registers, its rows in memory. -/
def spriteOf (m : Machine) (x y n : Fin 16) : Sprite where
  x := byteValue (m.registers.get x)
  y := byteValue (m.registers.get y)
  rows := m.memory.span m.index.toNat n

/-- The word of a draw. -/
def drawWord (x y n : Fin 16) : Nat := 0xD000 + x * 256 + y * 16 + n

/-- The flag reports whether something is so. -/
structure Reports (m : Machine) (p : Prop) : Prop where
  set : p → m.registers.get 15 = 255
  clear : ¬p → m.registers.get 15 = 0

/-- A machine after it drew a sprite, as far as a draw is concerned. -/
structure Drew (m : Machine) (s : Sprite) (m' : Machine) : Prop where
  memory : m'.memory = m.memory
  index : m'.index = m.index
  calls : m'.calls = m.calls
  display : m'.display = (m.display.drawSprite s.x s.y s.rows).1
  registers : m'.registers = m.registers.set 15
    (if (m.display.drawSprite s.x s.y s.rows).2 then 255 else 0)
  output : m.output.Receives [m'.display] m'.output

/-! ## One draw -/

section

variable {x y n : Fin 16}

theorem encodedBy_drawWord : (Operation.draw x y n).EncodedBy (drawWord x y n) := by
  refine ⟨?_, ?_, ?_⟩
  · rw [drawWord]
    omega
  · show drawWord x y n / 4096 = 0xD
    rw [drawWord]
    omega
  · show _ ∧ _ ∧ _
    rw [drawWord]
    omega

variable {m : Machine}

theorem sprite_eq (h₀ : 0 ≤ m.index) (hfits : m.index + n ≤ 4096) :
    m.sprite n = (m.spriteOf x y n).rows := by
  have hcount : min (n.val : Int).toNat (Image.memorySize - m.index.toNat) = n := by
    rw [Image.memorySize]
    omega
  rw [sprite, Memory.block, if_pos h₀, hcount]
  rfl

theorem drawn_eq (h₀ : 0 ≤ m.index) (hfits : m.index + n ≤ 4096) :
    m.drawn x y n = m.display.drawSprite (m.spriteOf x y n).x (m.spriteOf x y n).y
      (m.spriteOf x y n).rows := by
  rw [drawn, sprite_eq h₀ hfits (x := x) (y := y), Registers.named_val, Registers.named_val]
  rfl

theorem registersAfter_draw (h₀ : 0 ≤ m.index) (hfits : m.index + n ≤ 4096) :
    (Operation.draw x y n).registersAfter m = m.registers.set 15
      (if (m.display.drawSprite (m.spriteOf x y n).x (m.spriteOf x y n).y
        (m.spriteOf x y n).rows).2 then 255 else 0) := by
  rw [Operation.registersAfter, drawn_eq h₀ hfits]
  split <;> rfl

theorem fault?_draw (h₀ : 0 ≤ m.index) (hfits : m.index + n ≤ 4096) :
    (Operation.draw x y n).fault? m = none := if_pos ⟨h₀, hfits⟩

theorem drew_effect (h₀ : 0 ≤ m.index) (hfits : m.index + n ≤ 4096) :
    m.Drew (m.spriteOf x y n) ((Operation.draw x y n).effect m) where
  memory := rfl
  index := rfl
  calls := rfl
  display := congrArg Prod.fst (drawn_eq h₀ hfits)
  registers := registersAfter_draw h₀ hfits
  output := m.output.receives_deliver _

theorem drew_completed (h₀ : 0 ≤ m.index) (hfits : m.index + n ≤ 4096) :
    m.Drew (m.spriteOf x y n) (m.completed (.draw x y n)) where
  memory := memory_completed m _
  index := by
    rw [completed_eq]
    rfl
  calls := calls_completed m _
  display := by
    rw [completed_eq]
    exact congrArg Prod.fst (drawn_eq h₀ hfits)
  registers := (registers_completed m _).trans (registersAfter_draw h₀ hfits)
  output := by
    have hd : (m.completed (.draw x y n)).display = (Operation.draw x y n).displayAfter m := by
      rw [completed_eq]
    rw [hd]
    exact m.receives_completed (.draw x y n)

end

/-! ## The second draw -/

/-- What a draw leaves alone: memory, index, call stack and every register but the flag. -/
structure Spared (m m' : Machine) : Prop where
  memory : m'.memory = m.memory
  index : m'.index = m.index
  calls : m'.calls = m.calls
  registers : ∀ i ≠ 15, m'.registers.get i = m.registers.get i

/-- What two draws of a sprite come to, with the machine between them. The screen is as it
was, and the device has seen both. The first one reports whether it struck a cell that was
on, the second whether the first had turned a cell on, and one of the two has something to
report unless the sprite is empty. -/
structure Redrawn (m : Machine) (s : Sprite) (m₁ m₂ : Machine) : Prop where
  display : m₂.display = m.display
  spared₁ : m.Spared m₁
  spared₂ : m.Spared m₂
  output : m.output.Receives [m₁.display, m.display] m₂.output
  flag₁ : m₁.Reports (∃ column < 64, ∃ row < 32, s.Covers column row ∧
    m.display.isOn (row * 64 + column) = true)
  flag₂ : m₂.Reports (∃ i < 2048, m.display.isOn i = false ∧ m₁.display.isOn i = true)
  either : (∃ b ∈ s.rows, b ≠ 0) → m₁.registers.get 15 = 255 ∨ m₂.registers.get 15 = 255

variable {m m₁ m₂ : Machine} {s : Sprite}

theorem Drew.spared (h : m.Drew s m₁) : m.Spared m₁ where
  memory := h.memory
  index := h.index
  calls := h.calls
  registers i hi := by rw [h.registers, Registers.get_set, if_neg hi.symm]

theorem Spared.trans (h : m.Spared m₁) (h' : m₁.Spared m₂) : m.Spared m₂ where
  memory := h'.memory.trans h.memory
  index := h'.index.trans h.index
  calls := h'.calls.trans h.calls
  registers i hi := (h'.registers i hi).trans (h.registers i hi)

/-- A draw goes by nothing that a draw changes, where the flag is no coordinate. -/
theorem Spared.spriteOf {x y n : Fin 16} (h : m.Spared m₁) (hx : x ≠ 15) (hy : y ≠ 15) :
    m₁.spriteOf x y n = m.spriteOf x y n := by
  rw [Machine.spriteOf, Machine.spriteOf, h.memory, h.index, h.registers x hx,
    h.registers y hy]

theorem Drew.reports (h : m.Drew s m₁) (hshort : s.rows.length ≤ 32) :
    m₁.Reports (∃ column < 64, ∃ row < 32, s.Covers column row ∧
      m.display.isOn (row * 64 + column) = true) := by
  rw [← (Display.draws_of_short hshort m.display).hit]
  have hflag : m₁.registers.get 15 = if (m.display.drawSprite s.x s.y s.rows).2 then 255 else 0 := by
    rw [h.registers, Registers.get_set, if_pos rfl]
  exact ⟨fun hhit => hflag.trans (if_pos hhit), fun hhit => hflag.trans (if_neg hhit)⟩

theorem Reports.congr {p q : Prop} (h : m.Reports p) (hpq : p ↔ q) : m.Reports q :=
  ⟨fun hq => h.set (hpq.2 hq), fun hq => h.clear fun hp => hq (hpq.1 hp)⟩

/-- A cell under the sprite that is on after the first draw was turned on by it. -/
theorem Drew.struck_iff (h : m.Drew s m₁) (hshort : s.rows.length ≤ 32) :
    (∃ column < 64, ∃ row < 32, s.Covers column row ∧
      m₁.display.isOn (row * 64 + column) = true) ↔
    ∃ i < 2048, m.display.isOn i = false ∧ m₁.display.isOn i = true := by
  have hcell := (Display.draws_of_short hshort m.display).cell
  rw [← h.display] at hcell
  constructor
  · rintro ⟨column, hc, row, hr, hcovers, hon⟩
    refine ⟨_, by omega, ?_, hon⟩
    rw [hcell column hc row hr] at hon
    simpa [hcovers] using hon
  · rintro ⟨i, hi, hoff, hon⟩
    obtain ⟨column, hc, row, hr, rfl⟩ := Display.exists_place hi
    refine ⟨column, hc, row, hr, ?_, hon⟩
    rw [hcell column hc row hr, hoff] at hon
    simpa using hon

theorem Drew.redrawn (h : m.Drew s m₁) (h' : m₁.Drew s m₂) (hshort : s.rows.length ≤ 32) :
    m.Redrawn s m₁ m₂ := by
  have hdisplay : m₂.display = m.display := by
    rw [h'.display, h.display, Display.drawSprite_twice]
  have hfirst := h.reports hshort
  have hsecond := (h'.reports hshort).congr (h.struck_iff hshort)
  refine ⟨hdisplay, h.spared, h.spared.trans h'.spared, ?_, hfirst, hsecond, ?_⟩
  · exact hdisplay ▸ h.output.trans h'.output
  · intro hbit
    obtain ⟨column, hc, row, hr, hcovers⟩ := Sprite.exists_covers hshort hbit
    cases hon : m.display.isOn (row * 64 + column) with
    | true => exact .inl (hfirst.set ⟨column, hc, row, hr, hcovers, hon⟩)
    | false =>
        refine .inr (hsecond.set ⟨_, by omega, hon, ?_⟩)
        rw [h.display, (Display.draws_of_short hshort m.display).cell column hc row hr, hon]
        simpa using hcovers

theorem length_spriteOf (m : Machine) (x y n : Fin 16) :
    (m.spriteOf x y n).rows.length ≤ 32 := by
  rw [spriteOf, Memory.length_span]
  omega

theorem exists_execute_draw {x y n : Fin 16} (h₀ : 0 ≤ m.index) (hfits : m.index + n ≤ 4096) :
    ∃ m', (Instruction.ofWord (drawWord x y n)).execute m = .ok (m.pc + 2) m' ∧
      m'.pc = m.pc ∧ m.Drew (m.spriteOf x y n) m' := by
  refine ⟨(Operation.draw x y n).effect m, ?_, rfl, drew_effect h₀ hfits⟩
  rw [Instruction.execute_of_encodedBy encodedBy_drawWord,
    Operation.outcome_of_none (fault?_draw h₀ hfits)]
  rfl

theorem exists_step_draw {x y n : Fin 16} (hpc : 0 ≤ m.pc ∧ m.pc ≤ 4094)
    (hw : m.word = drawWord x y n) (h₀ : 0 ≤ m.index) (hfits : m.index + n ≤ 4096) :
    ∃ m', step m = .ok () m' ∧ m.Drew (m.spriteOf x y n) m' := by
  have ho : m.operation? = some (.draw x y n) :=
    operation?_of_encodedBy hpc (hw ▸ encodedBy_drawWord)
  exact ⟨_, step_eq_ok_iff.2 ⟨_, ho, fault?_draw h₀ hfits, rfl⟩, drew_completed h₀ hfits⟩

/-- Wherever a sprite is and whatever is on the screen, drawing it twice is as good as not
drawing it, as long as the flag is no coordinate. This holds of the instruction by itself, and
of a step that fetches it. -/
theorem redraw_restores (m : Machine) (x y n : Fin 16) (hx : x ≠ 15) (hy : y ≠ 15)
    (h₀ : 0 ≤ m.index) (hfits : m.index + n ≤ 4096) :
    (∃ m₁ m₂, (Instruction.ofWord (drawWord x y n)).execute m = .ok (m.pc + 2) m₁ ∧
      (Instruction.ofWord (drawWord x y n)).execute m₁ = .ok (m.pc + 2) m₂ ∧
      m.Redrawn (m.spriteOf x y n) m₁ m₂) ∧
    (0 ≤ m.pc ∧ m.pc ≤ 4094 → m.word = drawWord x y n →
      ∃ m₁ m₂, step m = .ok () m₁ ∧ step { m₁ with pc := m.pc } = .ok () m₂ ∧
        m.Redrawn (m.spriteOf x y n) m₁ m₂) := by
  have hshort := m.length_spriteOf x y n
  constructor
  · obtain ⟨m₁, he₁, hpc₁, hd₁⟩ := exists_execute_draw (x := x) (y := y) h₀ hfits
    have hsprite := hd₁.spared.spriteOf (n := n) hx hy
    obtain ⟨m₂, he₂, -, hd₂⟩ := exists_execute_draw (m := m₁) (x := x) (y := y) (n := n)
      (hd₁.index ▸ h₀) (hd₁.index ▸ hfits)
    rw [hpc₁] at he₂
    rw [hsprite] at hd₂
    exact ⟨m₁, m₂, he₁, he₂, hd₁.redrawn hd₂ hshort⟩
  · intro hpc hw
    obtain ⟨m₁, hs₁, hd₁⟩ := exists_step_draw hpc hw h₀ hfits
    -- what a draw is about does not depend on where the machine goes on
    have hd₁' : m.Drew (m.spriteOf x y n) { m₁ with pc := m.pc } :=
      ⟨hd₁.memory, hd₁.index, hd₁.calls, hd₁.display, hd₁.registers, hd₁.output⟩
    have hsprite := hd₁'.spared.spriteOf (n := n) hx hy
    have hw₁ : ({ m₁ with pc := m.pc } : Machine).word = drawWord x y n := by
      rw [← hw, word, word, hd₁.memory]
    obtain ⟨m₂, hs₂, hd₂⟩ := exists_step_draw (m := { m₁ with pc := m.pc }) hpc hw₁
      (hd₁.index ▸ h₀) (hd₁.index ▸ hfits)
    rw [hsprite] at hd₂
    obtain ⟨hdisplay, -, hspared, houtput, hflag₁, hflag₂, heither⟩ := hd₁'.redrawn hd₂ hshort
    exact ⟨m₁, m₂, hs₁, hs₂, hdisplay, hd₁.spared, hspared, houtput, ⟨hflag₁.set, hflag₁.clear⟩,
      hflag₂, heither⟩

/-- A program that draws the glyph of zero on a blank screen. The first draw strikes nothing,
so it is the second that reports. -/
theorem redraw_restores_glyph :
    ∃ m m₁ m₂, m = holding [0xD1, 0x25] 0x50 ∧ 0 ≤ m.index ∧ m.index + (5 : Fin 16) ≤ 4096 ∧
      m.word = drawWord 1 2 5 ∧ step m = .ok () m₁ ∧ step { m₁ with pc := m.pc } = .ok () m₂ ∧
      m.Redrawn (m.spriteOf 1 2 5) m₁ m₂ ∧ m₁.registers.get 15 = 0 ∧
      m₂.registers.get 15 = 255 := by
  obtain ⟨m, hm⟩ : ∃ m, m = holding [0xD1, 0x25] 0x50 := ⟨_, rfl⟩
  have hpc : 0 ≤ m.pc ∧ m.pc ≤ 4094 := by
    rw [hm]
    decide
  have hindex : m.index = 0x50 := by rw [hm]; rfl
  have h₀ : 0 ≤ m.index := by omega
  have hfits : m.index + (5 : Fin 16) ≤ 4096 := by
    rw [hindex]
    decide
  have hw : m.word = drawWord 1 2 5 := by
    rw [hm]
    exact word_holding (by decide) (by decide)
  obtain ⟨m₁, m₂, hs₁, hs₂, h⟩ :=
    (redraw_restores m 1 2 5 (by decide) (by decide) h₀ hfits).2 hpc hw
  have hblank : ∀ i, m.display.isOn i = false := by
    intro i
    rw [hm]
    by_cases hi : i < 2048 <;> simp [holding, Display.blank, Display.isOn, hi]
  have hzero : m₁.registers.get 15 = 0 := by
    refine h.flag₁.clear ?_
    rintro ⟨column, -, row, -, -, hon⟩
    rw [hblank] at hon
    cases hon
  have hbit : ∃ b ∈ (m.spriteOf 1 2 5).rows, b ≠ 0 := by
    have hrow : m.memory.get 0x50 = 0xF0 := by
      rw [hm]
      decide +kernel
    refine ⟨0xF0, ?_, by decide⟩
    rw [spriteOf, hindex, ← hrow]
    exact List.mem_map_of_mem (by decide)
  obtain hflag | hflag := h.either hbit
  · rw [hzero] at hflag
    cases hflag
  · exact ⟨m, m₁, m₂, hm, h₀, hfits, hw, hs₁, hs₂, h, hzero, hflag⟩

end Machine

end ChipEight
