import ChipEight.Files
import ChipEight.Proofs.Except

/-!
# Files that were written

What was written under a name is what is read under it. A name is followed through directories
alone, and a file that is written takes the place of none of them; so the name leads the same
way afterwards, and ends at the file.
-/

namespace ChipEight.Files

variable {t t' : Files} {name : String} {bytes : List UInt8} {path : List String}

/-! ## Entries -/

theorem lookup_filter_ne {α β : Type} [BEq α] [LawfulBEq α] {a b : α} (h : a ≠ b)
    (entries : List (α × β)) : (entries.filter (·.1 != b)).lookup a = entries.lookup a := by
  induction entries with
  | nil => rfl
  | cons m entries ih =>
      obtain ⟨c, v⟩ := m
      by_cases hc : c = b
      · subst hc
        simpa [List.lookup_cons, beq_false_of_ne h] using ih
      · simp [List.lookup_cons, hc, ih]

theorem entry?_put {e : FileEntry} (hpath : path ≠ []) (q : List String) :
    Files.entry? (t.put path e) q = if q = path then some e else t.entry? q := by
  unfold entry? put
  by_cases hq : q = path
  · simp [hq, hpath]
  · simp [hq, List.lookup_cons, beq_false_of_ne hq, lookup_filter_ne hq]

/-! ## Following a name -/

/-- The path of a place where a file may be put. -/
def Place.filePath? : Place → Option (List String)
  | .entry _ .directory => none
  | .entry path (.file _) | .vacant path => some path

/-- A place where a file may be put is no directory. -/
theorem entry?_of_follow {p cs : List String} {place : Place}
    (h : t.follow p cs = .ok place) (hpath : place.filePath? = some path) :
    t.entry? path ≠ some .directory := by
  fun_induction t.follow p cs with
  | case1 p e he =>
      cases h
      cases e with
      | directory => cases hpath
      | file old => simp_all [Place.filePath?]
  | case2 => cases h
  | case3 => cases h
  | case4 => cases h
  | case5 p c rest hdir hc ih => exact ih h
  | case6 p rest hdir hup ih => exact ih h
  | case7 => cases h
  | case8 p c rest hdir hc hup hlong hsome ih => exact ih h
  | case9 p c rest hdir hc hup hlong hnone hlast =>
      cases h
      cases hpath
      simp_all
  | case10 => cases h

/-- The name leads the same way where a file was put at its end. -/
theorem follow_put {p cs : List String} {place : Place} {bytes : List UInt8}
    (h : t.follow p cs = .ok place) (hpath : place.filePath? = some path) :
    (t.put path (.file bytes)).follow p cs = .ok (.entry path (.file bytes)) := by
  have hplace := entry?_of_follow h hpath
  have hroot : path ≠ [] := by
    rintro rfl
    exact hplace rfl
  have hput := entry?_put (t := t) (e := .file bytes) hroot
  -- The directories on the way are where they were.
  have hway {q : List String} (hq : t.entry? q = some .directory) :
      Files.entry? (t.put path (.file bytes)) q = some .directory := by
    rw [hput, if_neg (by rintro rfl; exact hplace hq), hq]
  have hstays {q : List String} (hq : Option.isSome <| t.entry? q) :
      Option.isSome <| Files.entry? (t.put path (.file bytes)) q := by
    rw [hput]
    split
    · rfl
    · exact hq
  fun_induction t.follow p cs with
  | case1 p e he =>
      cases h
      cases e with
      | directory => cases hpath
      | file old =>
          cases hpath
          simp [follow, hput]
  | case2 => cases h
  | case3 => cases h
  | case4 => cases h
  | case5 p c rest hdir hc ih => simp [follow, hway hdir, hc, ih h]
  | case6 p rest hdir hup ih => simp [follow, hway hdir, ih h]
  | case7 => cases h
  | case8 p c rest hdir hc hup hlong hsome ih =>
      simp [follow, hway hdir, hc, hup, hlong, hstays hsome, ih h]
  | case9 p c rest hdir hc hup hlong hnone hlast =>
      cases h
      cases hpath
      simp_all [follow]
  | case10 => cases h

/-! ## Names -/

theorem resolve_put {slash : Bool} {place : Place} (h : t.resolve slash name = .ok place)
    (hpath : place.filePath? = some path) :
    (t.put path (.file bytes)).resolve slash name = .ok (.entry path (.file bytes)) := by
  unfold resolve at h ⊢
  split at h
  · cases h
  split at h
  · cases h
  split at h
  · cases h
  simp only [*, if_false]
  exact follow_put h hpath

theorem endsWith_slash_iff : name.endsWith "/" = true ↔ ['/'] <:+ name.toList := by
  rw [String.endsWith_eq_endsWith_toSlice, String.Slice.endsWith_string_iff]
  simp

theorem intercalate_slash {parts : List (List Char)} (h : parts.getLast? = some []) :
    parts = [[]] ∨ ['/'] <:+ ['/'].intercalate parts := by
  induction parts with
  | nil => cases h
  | cons first parts ih =>
      cases parts with
      | nil => exact .inl (by simpa using h)
      | cons second rest =>
          refine .inr ?_
          rw [List.intercalate_cons_cons]
          rcases ih (by simpa using h) with hrest | hrest
          · simp [hrest]
          · exact hrest.trans (List.suffix_append _ _)

/-- The last component of a name is empty only behind a slash. -/
theorem getLast_components (hname : name ≠ "") (hslash : name.endsWith "/" = false) :
    (components name).getLast? ≠ some "" := by
  intro hlast
  have hparts : (name.toList.splitOn '/').getLast? = some [] := by
    simpa [components, List.getLast?_map] using hlast
  rcases intercalate_slash hparts with h | h
  · have hnil : ['/'].intercalate (name.toList.splitOn '/') = name.toList :=
      List.intercalate_splitOn '/'
    rw [h] at hnil
    exact hname (by simpa using hnil.symm)
  · rw [List.intercalate_splitOn, ← endsWith_slash_iff, hslash] at h
    cases h

theorem resolve_overlookSlash (hslash : name.endsWith "/" = false) :
    t.resolve true name = t.resolve false name := by
  unfold resolve
  split
  · rfl
  · next hname =>
      have hlast := getLast_components (by simpa using hname) hslash
      have hkept : (components name).reverse.dropWhile String.isEmpty
          = (components name).reverse := by
        rw [← List.head?_reverse] at hlast
        cases hparts : (components name).reverse with
        | nil => rfl
        | cons last rest =>
            rw [hparts] at hlast
            exact List.dropWhile_cons_of_neg (by simpa using hlast)
      simp [hkept]

/-! ## Reading and writing -/

theorem write_eq_ok (h : t.write name bytes = .ok t') :
    name.endsWith "/" = false ∧ ∃ path place, t.resolve true name = .ok place ∧
      place.filePath? = some path ∧ t' = t.put path (.file bytes) := by
  obtain ⟨place, hplace, h⟩ := bind_eq_ok h
  -- A file that stands there and a vacant place are written alike.
  split at h
  · cases h
  all_goals
    split at h
    · cases h
    · next hslash =>
        cases h
        exact ⟨by simpa using hslash, _, _, hplace, rfl, rfl⟩

/-- What was written under a name is read under it. -/
theorem read_write (h : t.write name bytes = .ok t') : t'.read name = .ok bytes := by
  obtain ⟨hslash, path, place, hplace, hpath, rfl⟩ := write_eq_ok h
  rw [resolve_overlookSlash hslash] at hplace
  rw [read, resolve_put hplace hpath]
  rfl

end ChipEight.Files
