import ChipEight.Proofs.Machine.Cycle

/-!
# A call and its return

What lies below the newest frame of a subroutine is out of its reach. It may
call, return and jump as it likes and write over its own code: as long as the
depth stays above the one it was called from, the frames up to its own do not
change, because only a call and a return touch the stack and each of them only
touches its end. So the step that ends it is a return, and that return finds
the frame of the call.

The slots above the depth may hold anything by then. No frame is ever read from
them, and the argument goes by `frames` alone.
-/

namespace ChipEight

namespace Machine

/-- A run of `n` successful steps that enters a call with its first step and is
back at the depth it started from with its last, and not before. -/
structure Subroutine (s : Nat → Machine) (n : Nat) : Prop where
  nonempty : 0 < n
  run : ∀ i < n, step (s i) = .ok () (s (i + 1))
  call : ∃ a, (s 0).operation? = some (.call a)
  above : ∀ i, 0 < i → i < n → (s 0).calls.depth < (s i).calls.depth
  back : (s n).calls.depth = (s 0).calls.depth

/-- Frames that are there before and after a step are the same. -/
theorem take_frames_of_step {m m' : Machine} (h : step m = .ok () m') {k : Nat}
    (hk : k ≤ m.calls.depth) (hk' : k ≤ m'.calls.depth) :
    m'.calls.frames.take k = m.calls.frames.take k := by
  rw [← CallStack.length_frames] at hk hk'
  rcases calls_of_step h with ⟨a, f, -, -, hframes⟩ | ⟨f, -, -, hframes⟩ | hcalls
  · rw [hframes, List.take_append_of_le_length hk]
  · rw [hframes, List.take_append_of_le_length hk']
  · rw [hcalls]

/-- A step that takes a frame away is a return to behind its site. -/
theorem ret_of_step {m m' : Machine} (h : step m = .ok () m')
    (hd : m'.calls.depth < m.calls.depth) :
    ∃ f, m.operation? = some .ret ∧ m'.pc = ((f.toNat : Int) + 2) % 65536 ∧
      m.calls.frames = m'.calls.frames ++ [f] := by
  rw [← CallStack.length_frames, ← CallStack.length_frames] at hd
  rcases calls_of_step h with ⟨a, f, -, -, hframes⟩ | hret | hcalls
  · rw [hframes, List.length_append] at hd
    omega
  · exact hret
  · rw [hcalls] at hd
    omega

/-- The first step leaves the address of the call as the newest frame. -/
theorem Subroutine.entry {s : Nat → Machine} {n : Nat} (h : Subroutine s n) :
    ∃ f : UInt16, (f.toNat : Int) = (s 0).pc ∧
      (s 1).calls.frames = (s 0).calls.frames ++ [f] := by
  obtain ⟨a, ha⟩ := h.call
  obtain ⟨hf, he⟩ := completed_of_step ha (h.run 0 h.nonempty)
  obtain ⟨f, hframes, hsite⟩ := frames_callsAfter_call ha hf
  refine ⟨f, hsite, ?_⟩
  rw [he, calls_completed]
  exact hframes

/-- Until the subroutine ends, its frame and the frames below stay. -/
theorem Subroutine.take_frames {s : Nat → Machine} {n : Nat} (h : Subroutine s n)
    {f : UInt16} (hf : (s 1).calls.frames = (s 0).calls.frames ++ [f]) {i : Nat}
    (hi : 0 < i) (hn : i < n) :
    (s i).calls.frames.take ((s 0).calls.depth + 1) = (s 0).calls.frames ++ [f] := by
  induction i with
  | zero => omega
  | succ i ih =>
      rcases Nat.eq_zero_or_pos i with rfl | hpos
      · rw [hf, List.take_of_length_le]
        rw [List.length_append, CallStack.length_frames]
        exact Nat.le_refl _
      · have hbelow := h.above i hpos (by omega)
        have habove := h.above (i + 1) hi hn
        rw [take_frames_of_step (h.run i (by omega)) hbelow habove]
        exact ih hpos (by omega)

/-- A subroutine ends with a return, behind its call and with the frames that were
there before. On the way none of those frames changes, and neither does its own. -/
theorem subroutine_returns {s : Nat → Machine} {n : Nat} (h : Subroutine s n) :
    (s (n - 1)).operation? = some .ret ∧ (s n).pc = (s 0).pc + 2 ∧
      (s n).calls.frames = (s 0).calls.frames ∧
      ∃ f : UInt16, (f.toNat : Int) = (s 0).pc ∧
        ∀ i, 0 < i → i < n →
          (s i).calls.frames.take ((s 0).calls.depth + 1) =
            (s 0).calls.frames ++ [f] := by
  obtain ⟨f, hsite, hentry⟩ := h.entry
  obtain ⟨a, hcall⟩ := h.call
  obtain ⟨hpc, -⟩ := operation?_eq_some_iff.1 hcall
  obtain ⟨k, rfl⟩ : ∃ k, n = k + 1 := ⟨n - 1, by have := h.nonempty; omega⟩
  have hpos : 0 < k := by
    rcases Nat.eq_zero_or_pos k with rfl | hpos
    · have hback := h.back
      rw [← CallStack.length_frames, hentry, List.length_append] at hback
      simp at hback
    · exact hpos
  -- The last step takes a frame away, so it is a return.
  have hdrop : (s (k + 1)).calls.depth < (s k).calls.depth := by
    rw [h.back]
    exact h.above k hpos (Nat.lt_succ_self k)
  obtain ⟨g, hret, hnext, hframes⟩ := ret_of_step (h.run k (Nat.lt_succ_self k)) hdrop
  -- All that it found is the frame of the call and what was below it.
  have hfound := h.take_frames hentry hpos (Nat.lt_succ_self k)
  rw [hframes, List.take_of_length_le] at hfound
  · obtain ⟨hsame, hsites⟩ := List.append_inj' hfound rfl
    obtain rfl : g = f := List.head_eq_of_cons_eq hsites
    refine ⟨hret, ?_, hsame, g, hsite, fun i hi hn => h.take_frames hentry hi hn⟩
    rw [hnext, hsite]
    omega
  · rw [List.length_append, CallStack.length_frames, h.back]
    exact Nat.le_refl _

/-- A subroutine that does nothing but return. -/
theorem subroutine_returns_at_once :
    ∃ s : Nat → Machine, s 0 = holding [0x22, 0x02, 0x00, 0xEE] 0 ∧ Subroutine s 2 ∧
      (s 1).operation? = some .ret ∧ (s 2).pc = (s 0).pc + 2 ∧
      (s 2).calls.frames = (s 0).calls.frames := by
  obtain ⟨m₀, hm₀⟩ : ∃ m, m = holding [0x22, 0x02, 0x00, 0xEE] 0 := ⟨_, rfl⟩
  obtain ⟨m₁, hm₁⟩ : ∃ m, m = m₀.completed (.call 0x202) := ⟨_, rfl⟩
  have hp₀ : m₀.pc = 0x200 := by rw [hm₀]; rfl
  have hc₀ : m₀.calls = .new 16 := by rw [hm₀]; rfl
  have hw₀ : m₀.word = 0x2202 := by
    rw [hm₀]
    exact word_holding (by decide) (by decide)
  have ho₀ : m₀.operation? = some (.call 0x202) :=
    operation?_of_matches (by omega) (by rw [hw₀]; decide) (by rw [hw₀]; rfl)
  have hp₁ : m₁.pc = 0x202 := by rw [hm₁, pc_completed]; rfl
  have hc₁ : m₁.calls = (CallStack.new 16).pushed 0x200 := by
    rw [hm₁, calls_completed, Operation.callsAfter, hc₀, hp₀]
  have hw₁ : m₁.word = 0x00EE := by
    have hmem : m₁.memory = initialMemory [0x22, 0x02, 0x00, 0xEE] := by
      rw [hm₁, completed_eq, hm₀]
      rfl
    rw [word_of_image _ hmem (by decide) 2 hp₁ (by decide)]
    rfl
  have ho₁ : m₁.operation? = some .ret :=
    operation?_of_matches (by omega) (by rw [hw₁]; decide) trivial
  have hs₀ : step m₀ = .ok () m₁ := by
    refine step_eq_ok_iff.2 ⟨_, ho₀, ?_, hm₁⟩
    rw [Operation.fault?, hc₀]
    rfl
  have hs₁ : step m₁ = .ok () (m₁.completed .ret) := by
    refine step_eq_ok_iff.2 ⟨_, ho₁, ?_, rfl⟩
    rw [Operation.fault?, hc₁]
    rfl
  have hsub : Subroutine (fun i => [m₀, m₁].getD i (m₁.completed .ret)) 2 := {
    nonempty := by decide
    run := by
      intro i hi
      obtain rfl | rfl : i = 0 ∨ i = 1 := by omega
      · exact hs₀
      · exact hs₁
    call := ⟨_, ho₀⟩
    above := by
      intro i hi hn
      obtain rfl : i = 1 := by omega
      show m₀.calls.depth < m₁.calls.depth
      rw [hc₀, hc₁]
      decide
    back := by
      show (m₁.completed .ret).calls.depth = m₀.calls.depth
      rw [calls_completed, Operation.callsAfter, hc₁, hc₀]
      decide }
  obtain ⟨hret, hpc, hframes, -⟩ := subroutine_returns hsub
  exact ⟨_, hm₀, hsub, hret, hpc, hframes⟩

end Machine

end ChipEight
