import ChipEight.Proofs.CallStack

/-!
# The call stack under any requests

`Mirrors` ties a stack to a list that has no slots: the sites in use are the members of the list,
and the list may grow as long as there are slots. One request keeps the two together and has the
same answer from both, so any number of requests does. Whatever a slot above the depth holds has
no part in this. Two stacks with the same frames and equally many slots mirror the same list, and
so they can never be told apart.
-/

namespace ChipEight.CallStack

/-- What can be asked of a call stack. -/
inductive Request where
  | push (site : Int)
  | pop

/-- The answer to a request, which is a site for a return and nothing for a call, and the stack
after it. A request that is refused leaves the stack as it was. -/
def Request.perform (s : CallStack) : Request → Except Fault (Option Int) × CallStack
  | push site =>
      match s.push site with
      | .ok s' => (.ok none, s')
      | .error f => (.error f, s)
  | pop =>
      match s.pop with
      | .ok (frame, s') => (.ok (some frame.toNat), s')
      | .error f => (.error f, s)

/-- The same request to a list that may have `bound` members. -/
def Request.onList (bound : Nat) (sites : List Int) :
    Request → Except Fault (Option Int) × List Int
  | push site =>
      if sites.length < bound then (.ok none, sites ++ [site % 65536])
      else (.error (.callStackOverflow bound site), sites)
  | pop =>
      match sites.getLast? with
      | some site => (.ok (some site), sites.dropLast)
      | none => (.error .callStackUnderflow, sites)

/-- The stack after some requests, refused ones among them. -/
def afterAll (s : CallStack) (requests : List Request) : CallStack :=
  requests.foldl (fun s r => (r.perform s).2) s

/-- A list of at most `bound` members after the same requests. -/
def listAfterAll (bound : Nat) (sites : List Int) (requests : List Request) : List Int :=
  requests.foldl (fun sites r => (r.onList bound sites).2) sites

/-- The frames as numbers. -/
def sites (s : CallStack) : List Int := s.frames.map fun frame => (frame.toNat : Int)

theorem length_sites (s : CallStack) : s.sites.length = s.depth := by
  rw [sites, List.length_map, length_frames]

theorem frames_eq_of_sites {s s' : CallStack} (h : s'.sites = s.sites) :
    s'.frames = s.frames := by
  refine (List.map_inj_right ?_).1 h
  intro frame frame' heq
  exact UInt16.toNat.inj (Int.ofNat.inj heq)

theorem sites_pushed {s : CallStack} (h : s.depth < s.capacity) (site : Int) :
    (s.pushed site).sites = s.sites ++ [site % 65536] := by
  rw [sites, frames_pushed h, List.map_append, List.map_singleton, lowWord_toNat]
  rfl

theorem sites_popped (s : CallStack) : s.popped.sites = s.sites.dropLast := by
  rw [sites, frames_popped, List.map_dropLast]
  rfl

theorem sites_popped_append {s : CallStack} (h : s.depth ≠ 0) :
    s.popped.sites ++ [(s.newest.toNat : Int)] = s.sites := by
  rw [sites, sites, ← frames_popped_append h, List.map_append]
  rfl

theorem getLast?_sites {s : CallStack} (h : s.depth ≠ 0) :
    s.sites.getLast? = some (s.newest.toNat : Int) := by
  rw [← sites_popped_append h]
  exact List.getLast?_concat

/-! ## Refusals -/

theorem push_eq_error_iff {s : CallStack} {site : Int} {f : Fault} :
    s.push site = .error f ↔
      s.capacity ≤ s.depth ∧ f = .callStackOverflow s.capacity site := by
  rw [push_eq]
  split
  · next hroom => simp [Nat.not_le_of_lt hroom]
  · next hfull => simp [Nat.le_of_not_lt hfull, eq_comm]

theorem pop_eq_error_iff {s : CallStack} {f : Fault} :
    s.pop = .error f ↔ s.depth = 0 ∧ f = .callStackUnderflow := by
  rw [pop_eq]
  split
  · next hempty => simp [hempty, eq_comm]
  · next hused => simp [hused]

/-! ## One request -/

theorem Request.perform_push (s : CallStack) (site : Int) :
    (push site).perform s =
      if s.depth < s.capacity then (.ok none, s.pushed site)
      else (.error (.callStackOverflow s.capacity site), s) := by
  rw [perform, push_eq]
  by_cases h : s.depth < s.capacity
  · rw [if_pos h, if_pos h]
  · rw [if_neg h, if_neg h]

theorem Request.perform_pop (s : CallStack) :
    pop.perform s =
      if s.depth = 0 then (.error .callStackUnderflow, s)
      else (.ok (some s.newest.toNat), s.popped) := by
  rw [perform, pop_eq]
  by_cases h : s.depth = 0
  · rw [if_pos h, if_pos h]
  · rw [if_neg h, if_neg h]

/-- A stack whose frames are the members of a list of at most `bound`. -/
structure Mirrors (s : CallStack) (bound : Nat) (sites : List Int) : Prop where
  sites : s.sites = sites
  capacity : s.capacity = bound

theorem mirrors_new (slots : Int) : (new slots).Mirrors (max slots 0).toNat [] where
  sites := rfl
  capacity := by
    rw [capacity, new, Array.size_replicate]
    omega

section

variable {s : CallStack} {bound : Nat} {sites : List Int}

theorem Mirrors.depth (h : s.Mirrors bound sites) : s.depth = sites.length := by
  rw [← h.sites, length_sites]

theorem Mirrors.length_le (h : s.Mirrors bound sites) : sites.length ≤ bound := by
  rw [← h.depth, ← h.capacity]
  exact s.depth_le_capacity

/-- A request has the same answer from the stack and from the list, and keeps them together. -/
theorem Mirrors.perform (h : s.Mirrors bound sites) (r : Request) :
    (r.perform s).1 = (r.onList bound sites).1 ∧
      (r.perform s).2.Mirrors bound (r.onList bound sites).2 := by
  have hdepth := h.depth
  cases r with
  | push site =>
      rw [Request.perform_push, Request.onList, h.capacity, hdepth]
      by_cases hroom : sites.length < bound
      · have hlt : s.depth < s.capacity := by rw [h.capacity, hdepth]; exact hroom
        rw [if_pos hroom, if_pos hroom]
        refine ⟨rfl, ?_, ?_⟩
        · rw [sites_pushed hlt, h.sites]
        · rw [capacity_pushed, h.capacity]
      · rw [if_neg hroom, if_neg hroom]
        exact ⟨rfl, h⟩
  | pop =>
      rw [Request.perform_pop, Request.onList]
      by_cases hempty : s.depth = 0
      · have hnil : sites = [] := List.eq_nil_of_length_eq_zero (hdepth ▸ hempty)
        subst hnil
        rw [if_pos hempty]
        exact ⟨rfl, h⟩
      · rw [if_neg hempty, ← h.sites, getLast?_sites hempty]
        exact ⟨rfl, s.sites_popped, s.capacity_popped.trans h.capacity⟩

theorem Mirrors.afterAll (h : s.Mirrors bound sites) (requests : List Request) :
    (s.afterAll requests).Mirrors bound (listAfterAll bound sites requests) := by
  induction requests generalizing s sites with
  | nil => exact h
  | cons r requests ih => exact ih (h.perform r).2

end

theorem Request.perform_of_error {s : CallStack} {r : Request} {f : Fault}
    (h : (r.perform s).1 = .error f) : (r.perform s).2 = s := by
  cases r with
  | push site =>
      rw [perform_push] at h ⊢
      split at h
      · cases h
      · next hfull => rw [if_neg hfull]
  | pop =>
      rw [perform_pop] at h ⊢
      split at h
      · next hempty => rw [if_pos hempty]
      · cases h

/-! ## Any requests -/

/-- A stack is a list of sites that may have `bound` of them. It answers every request like the
list. A call is refused exactly if the list is full, and a return exactly if it is empty; then
the stack stays as it is. What stands in the slots above the depth never shows. -/
structure IsBoundedList (s : CallStack) (bound : Nat) (sites : List Int) : Prop where
  frames : s.frames.map (fun frame => (frame.toNat : Int)) = sites
  capacity : s.capacity = bound
  depth : s.depth = sites.length
  within : s.depth ≤ s.capacity
  answered : ∀ r : Request, (r.perform s).1 = (r.onList bound sites).1
  called : ∀ site, sites.length < bound →
    ∃ s', s.push site = .ok s' ∧ s'.sites = sites ++ [site % 65536]
  overflow : ∀ site f, s.push site = .error f ↔
    sites.length = bound ∧ f = .callStackOverflow bound site
  returned : ∀ rest site, sites = rest ++ [site] →
    ∃ frame s', s.pop = .ok (frame, s') ∧ (frame.toNat : Int) = site ∧ s'.sites = rest
  underflow : ∀ f, s.pop = .error f ↔ sites = [] ∧ f = .callStackUnderflow
  refused : ∀ (r : Request) f, (r.perform s).1 = .error f → (r.perform s).2 = s
  unseen : ∀ s' : CallStack, s'.frames = s.frames → s'.capacity = s.capacity →
    ∀ requests, (s'.afterAll requests).frames = (s.afterAll requests).frames ∧
      ∀ r : Request,
        (r.perform (s'.afterAll requests)).1 = (r.perform (s.afterAll requests)).1

/-- Whatever was asked of a stack before, it is the list that the same requests make of an empty
one. -/
theorem acts_as_bounded_list (slots : Int) (requests : List Request) :
    ((new slots).afterAll requests).IsBoundedList (max slots 0).toNat
      (listAfterAll (max slots 0).toNat [] requests) := by
  have h := (mirrors_new slots).afterAll requests
  generalize (new slots).afterAll requests = s, (max slots 0).toNat = bound at h ⊢
  generalize listAfterAll bound [] requests = sites at h ⊢
  constructor
  case frames => exact h.sites
  case capacity => exact h.capacity
  case depth => exact h.depth
  case within => exact s.depth_le_capacity
  case answered => exact fun r => (h.perform r).1
  case refused => exact fun r f hr => Request.perform_of_error hr
  case called =>
    intro site hroom
    rw [← h.depth, ← h.capacity] at hroom
    exact ⟨s.pushed site, by rw [push_eq, if_pos hroom], by rw [sites_pushed hroom, h.sites]⟩
  case overflow =>
    intro site f
    have hle := h.length_le
    have hfull : bound ≤ sites.length ↔ sites.length = bound := by omega
    rw [push_eq_error_iff, h.capacity, h.depth, hfull]
  case returned =>
    intro rest site hlast
    have hused : s.depth ≠ 0 := by
      rw [h.depth, hlast, List.length_append]
      exact Nat.succ_ne_zero _
    have hboth := (sites_popped_append hused).trans (h.sites.trans hlast)
    obtain ⟨hrest, hsite⟩ := List.append_inj' hboth rfl
    exact ⟨s.newest, s.popped, by rw [pop_eq, if_neg hused], List.singleton_inj.1 hsite, hrest⟩
  case underflow =>
    intro f
    rw [pop_eq_error_iff, h.depth, List.length_eq_zero_iff]
  case unseen =>
    intro s' hframes hcapacity requests
    have hsites : s'.sites = s.sites := by rw [CallStack.sites, hframes, CallStack.sites]
    have h' : s'.Mirrors bound sites := ⟨hsites.trans h.sites, hcapacity.trans h.capacity⟩
    have hs := h.afterAll requests
    have hs' := h'.afterAll requests
    refine ⟨frames_eq_of_sites (hs'.sites.trans hs.sites.symm), fun r => ?_⟩
    rw [(hs'.perform r).1, (hs.perform r).1]

/-- The second slot keeps the site of a call that has returned, and it does not show. -/
example :
    let s := (new 2).afterAll
      [.push 0x200, .push 0x300, .push 0x400, .pop, .pop, .pop, .push (-1)]
    s.frames = [0xFFFF] ∧ s.slots = #[0xFFFF, 0x300] := by
  decide

end ChipEight.CallStack
