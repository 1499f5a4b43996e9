import ChipEight.CallStack

/-!
# The call stack as a list of frames

`frames` is the view under which both operations are lists: a push appends, a
pop takes the last frame away. The slots above the depth keep whatever earlier
calls left in them, and no operation lets them be seen.

`pushed` and `popped` are the stacks after an operation that can take place,
and equal to the stack before it where it cannot.
-/

namespace ChipEight.CallStack

/-- The stack after a call from a site, if there is room for it. -/
def pushed (s : CallStack) (site : Int) : CallStack := (s.push site).toOption.getD s

/-- The stack after a return, if there is a call to return from. -/
def popped (s : CallStack) : CallStack := (s.pop.toOption.map Prod.snd).getD s

/-- The newest frame, zero where there is none. -/
def newest (s : CallStack) : UInt16 := s.frames.getLastD 0

@[simp] theorem length_frames (s : CallStack) : s.frames.length = s.depth := by
  have := s.depth_le
  simp only [frames, List.length_take, Array.length_toList]
  omega

theorem depth_le_capacity (s : CallStack) : s.depth ≤ s.capacity := s.depth_le

theorem push_eq (s : CallStack) (site : Int) :
    s.push site =
      if s.depth < s.capacity then .ok (s.pushed site)
      else .error (.callStackOverflow s.capacity site) := by
  rw [pushed, push, capacity]
  split <;> rfl

theorem frames_pushed {s : CallStack} (h : s.depth < s.capacity) (site : Int) :
    (s.pushed site).frames = s.frames ++ [lowWord site] := by
  have hs : s.depth < s.slots.size := h
  have hl : s.depth < s.slots.toList.length := hs
  rw [pushed, push, dif_pos hs]
  simp only [Except.toOption, Option.getD_some, frames, Array.toList_set]
  rw [List.take_add_one, List.take_set_of_le (Nat.le_refl _), List.getElem?_set_self hl]
  rfl

theorem capacity_pushed (s : CallStack) (site : Int) :
    (s.pushed site).capacity = s.capacity := by
  rw [pushed, push]
  split
  · simp [Except.toOption, capacity]
  · rfl

theorem frames_popped (s : CallStack) : s.popped.frames = s.frames.dropLast := by
  obtain ⟨slots, depth, hle⟩ := s
  cases depth with
  | zero => rfl
  | succ d =>
      have hlen : d + 1 ≤ slots.toList.length := hle
      show slots.toList.take d = (slots.toList.take (d + 1)).dropLast
      rw [List.dropLast_eq_take, List.take_take, List.length_take]
      congr 1
      omega

theorem capacity_popped (s : CallStack) : s.popped.capacity = s.capacity := by
  obtain ⟨slots, depth, hle⟩ := s
  cases depth <;> rfl

theorem newest_succ {slots : Array UInt16} {d : Nat} (h : d + 1 ≤ slots.size) :
    newest ⟨slots, d + 1, h⟩ = slots.getD d 0 := by
  have hd : d < slots.size := h
  rw [newest, frames, List.take_add_one, Array.getElem?_toList,
    Array.getD_eq_getD_getElem?, Array.getElem?_eq_getElem hd]
  simp

theorem pop_eq (s : CallStack) :
    s.pop =
      if s.depth = 0 then .error .callStackUnderflow else .ok (s.newest, s.popped) := by
  obtain ⟨slots, depth, hle⟩ := s
  cases depth with
  | zero => rfl
  | succ d =>
      rw [newest_succ, if_neg (Nat.succ_ne_zero d)]
      rfl

/-- A return takes away the newest frame and nothing else. -/
theorem frames_popped_append {s : CallStack} (h : s.depth ≠ 0) :
    s.popped.frames ++ [s.newest] = s.frames := by
  have hne : s.frames ≠ [] := by
    intro hnil
    rw [← length_frames, hnil] at h
    exact h rfl
  rw [frames_popped, newest, List.getLastD_eq_getLast?, List.getLast?_eq_some_getLast hne,
    Option.getD_some]
  exact List.dropLast_concat_getLast hne

end ChipEight.CallStack
