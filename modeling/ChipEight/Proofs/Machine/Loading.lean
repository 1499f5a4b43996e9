import ChipEight.Proofs.Console.Configure
import ChipEight.Proofs.Machine.Cycle

/-!
# Images and the memory of a new machine

Whether an image fits is asked in three places, and each has its own way to find out. A reader
takes one byte more than fit, and looks whether it got it; a loader counts the bytes; and the
memory refuses a block that goes past its top. They agree on every image, so whatever was read can
be run. The memory is the last to be asked and never has anything to refuse: the glyph table fits
always, and an image that was not refused before ends within the memory.

The glyph table ends in front of the image. So neither of the two overwrites the other, and all
that a new machine remembers is the one, the other, and zeros.
-/

namespace ChipEight

open Session (settle)

namespace Image

theorem check_eq_ok_iff {data : List UInt8} : check data = .ok () ↔ data.length ≤ maxSize := by
  rw [check]
  split
  · next h => exact iff_of_true rfl h
  · next h =>
      refine iff_of_false (fun hok => ?_) h
      cases hok

/-- One byte past the limit is enough to tell that there are too many. -/
theorem ofContents_eq (contents : List UInt8) :
    ofContents contents = if contents.length ≤ maxSize then .ok contents else .error .endless := by
  have hread : (contents.take (maxSize + 1)).length ≤ maxSize ↔ contents.length ≤ maxSize := by
    rw [List.length_take]
    omega
  simp only [ofContents, hread]
  split
  · next h => rw [List.take_of_length_le (by omega)]
  · rfl

end Image

theorem Session.settle_readImage {w : Surroundings} {name : String} {image : List UInt8}
    (h : w.files.read name = .ok image) :
    settle (readImage name) w =
      (if image.length ≤ Image.maxSize then .ok image
        else .error (.failure (.image .endless)), w) := by
  have hread : settle (ExceptT.lift (Host.read name) : Session (StateM Surroundings) _) w
      = (.ok (.ok image), w) := by
    rw [← h]
    rfl
  rw [readImage, settle_bind, hread]
  dsimp only
  rw [Image.ofContents_eq]
  split <;> rfl

namespace Machine

/-- What lies at an address before the first step: a row of a glyph, a byte of the image, or
zero. -/
def initialByte (image : List UInt8) (a : Nat) : UInt8 :=
  if 0x50 ≤ a ∧ a < 0xA0 then Font.table.getD (a - 0x50) 0
  else if 0x200 ≤ a ∧ a < 0x200 + image.length then image.getD (a - 0x200) 0
  else 0

theorem get_initialMemory_eq {image : List UInt8} (h : image.length ≤ Image.maxSize) (a : Nat) :
    (initialMemory image).get a = initialByte image a := by
  have hsize : Image.memorySize = 4096 := rfl
  have hmax : Image.maxSize = 3584 := rfl
  have htable : Font.table.length = 80 := Font.length_table
  have hfont : Font.offset = 0x50 := rfl
  have hoffset : Image.offset = 0x200 := rfl
  rw [initialMemory, bareMemory, Memory.get_setAll, Memory.get_setAll, Memory.get_blank,
    initialByte]
  by_cases himage : 0x200 ≤ a ∧ a < 0x200 + image.length
  · rw [if_pos (by omega), if_neg (by omega), if_pos himage, hoffset]
  · rw [if_neg (by omega), if_neg (c := 0x200 ≤ a ∧ _) himage]
    by_cases hglyph : 0x50 ≤ a ∧ a < 0xA0
    · rw [if_pos (by omega), if_pos hglyph, hfont]
    · rw [if_neg (by omega), if_neg hglyph]

theorem exists_new_iff {image : List UInt8} {keys : KeyInput} {random : Random.Source}
    {output : Output} {rate : Number} :
    (∃ m, Machine.new image keys random output rate = .ok m) ↔ image.length ≤ Image.maxSize := by
  constructor
  · rintro ⟨m, hm⟩
    by_contra hlong
    rw [new_eq_map, loadImage_of_too_large hlong] at hm
    cases hm
  · exact fun h => ⟨_, new_eq h keys random output rate⟩

/-- An image is read from a file, passes for one that fits, and makes a machine, exactly if it has
at most 3584 bytes. While the machine is made, the memory refuses neither of the two blocks, and
afterwards each of its addresses holds what belongs there. -/
theorem image_accepted_alike (image : List UInt8) (keys : KeyInput) (random : Random.Source)
    (output : Output) (rate : Number) :
    (∀ (w : Surroundings) (name : String), w.files.read name = .ok image → ∀ data w',
      settle (Session.readImage name) w = (.ok data, w') ↔
        image.length ≤ 3584 ∧ data = image ∧ w' = w) ∧
    (Image.check image = .ok () ↔ image.length ≤ 3584) ∧
    ((∃ m, Machine.new image keys random output rate = .ok m) ↔ image.length ≤ 3584) ∧
    ∀ m, Machine.new image keys random output rate = .ok m →
      (∃ bare, (Memory.blank 4096).loadSegment 0x50 Font.table = .ok bare ∧
        bare.loadSegment 0x200 image = .ok m.memory) ∧
      ∀ a, m.memory.get a = initialByte image a := by
  refine ⟨fun w name hfile data w' => ?_, Image.check_eq_ok_iff, exists_new_iff, fun m hm => ?_⟩
  · rw [Session.settle_readImage hfile]
    simp only [Prod.mk.injEq]
    split
    · next h => simp [show image.length ≤ 3584 from h, eq_comm]
    · next h => simp [show ¬ image.length ≤ 3584 from h]
  · have h := exists_new_iff.1 ⟨m, hm⟩
    rw [new_eq h] at hm
    cases hm
    exact ⟨⟨bareMemory, loadSegment_table, loadSegment_image h⟩, get_initialMemory_eq h⟩

/-- The greatest image reaches to the last byte of the memory. -/
theorem image_accepted_alike_full :
    ∃ (image : List UInt8) (w : Surroundings) (m : Machine),
      image = List.replicate 3584 0xAA ∧ w.files.read "p.ch8" = .ok image ∧
      Machine.new image (.scripted [none]) (.rotating []) .discarding (.whole 0) = .ok m ∧
      settle (Session.readImage "p.ch8") w = (.ok image, w) ∧
      m.memory.get 0x1FF = 0 ∧ m.memory.get 0x200 = 0xAA ∧ m.memory.get 0xFFF = 0xAA := by
  obtain ⟨image, himage⟩ : ∃ image : List UInt8, image = List.replicate 3584 0xAA := ⟨_, rfl⟩
  have hlength : image.length = 3584 := by rw [himage, List.length_replicate]
  have hbyte (k : Nat) (hk : k < 3584) : image.getD k 0 = 0xAA := by
    rw [himage, List.getD_eq_getElem?_getD, List.getElem?_replicate_of_lt hk, Option.getD_some]
  have hfile : Files.read { entries := [(["p.ch8"], .file image)] } "p.ch8" = .ok image := by
    have hcomponents : Files.components "p.ch8" = ["p.ch8"] := by decide +kernel
    have hlength : ¬ Files.maxName < "p.ch8".utf8ByteSize := by decide
    have hrelative : "p.ch8".startsWith "/" = false := by decide +kernel
    simp only [Files.read, Files.resolve, if_neg hlength, hcomponents, hrelative]
    rfl
  obtain ⟨hread, -, hnew, hmemory⟩ := image_accepted_alike image
    (.scripted [none]) (.rotating []) .discarding (.whole 0)
  obtain ⟨m, hm⟩ := hnew.2 (Nat.le_of_eq hlength)
  obtain ⟨-, hget⟩ := hmemory m hm
  refine ⟨image, { files := _ }, m, himage, hfile, hm,
    (hread _ "p.ch8" hfile _ _).2 ⟨Nat.le_of_eq hlength, rfl, rfl⟩, ?_, ?_, ?_⟩
  · rw [hget, initialByte, if_neg (by decide), if_neg (by omega)]
  · rw [hget, initialByte, if_neg (by decide), if_pos (by omega)]
    exact hbyte 0 (by decide)
  · rw [hget, initialByte, if_neg (by decide), if_pos (by omega)]
    exact hbyte 3583 (by decide)

end Machine

end ChipEight
