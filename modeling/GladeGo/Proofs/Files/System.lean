import GladeGo.Files.System
import GladeGo.Proofs.Run
import Mathlib.Data.String.Basic

/-! # Entries and paths of a file system

What stands where after an entry is put in or taken away, and which paths lead where. A fresh name
stands in no location in use and is longer than a name in a path may be, so that a file with that
name is on the way of no path. -/

namespace GladeGo.FileSystem

open FilePath (maxNameSize)

/-! ### Entries -/

section Lookup
variable {κ β : Type} [BEq κ] [LawfulBEq κ] {key other : κ} {as : List (κ × β)}

theorem lookup_cons_of_ne {a : κ × β} (h : key ≠ a.1) :
    (a :: as).lookup key = as.lookup key := by
  rw [List.lookup_cons, beq_false_of_ne h]

theorem lookup_putBy_self (value : β) :
    (putBy Prod.fst (key, value) as).lookup key = some value := by
  have hmap : (as.any fun b => b.1 == key) = true →
      (as.map fun b => if b.1 == key then (key, value) else b).lookup key = some value := by
    induction as with
    | nil => exact fun h => nomatch h
    | cons a as ih =>
      intro h
      rw [List.map_cons]
      by_cases ha : a.1 = key
      · rw [if_pos (beq_iff_eq.mpr ha), List.lookup_cons_self]
      · rw [List.any_cons, beq_false_of_ne ha, Bool.false_or] at h
        rw [if_neg (by simpa using ha), lookup_cons_of_ne (Ne.symm ha)]
        exact ih h
  unfold putBy
  split
  · rename_i h
    exact hmap h
  · rename_i h
    have habsent : as.lookup key = none := List.lookup_eq_none_iff.mpr fun b hb => by
      simp only [List.any_eq_true, not_exists, not_and, beq_iff_eq] at h
      exact bne_iff_ne.mpr (Ne.symm (h b hb))
    rw [List.lookup_append, habsent, List.lookup_cons_self]
    rfl

theorem lookup_putBy_of_ne (hother : other ≠ key) (value : β) :
    (putBy Prod.fst (key, value) as).lookup other = as.lookup other := by
  have hmap : (as.map fun b => if b.1 == key then (key, value) else b).lookup other =
      as.lookup other := by
    induction as with
    | nil => rfl
    | cons a as ih =>
      rw [List.map_cons]
      by_cases ha : a.1 = key
      · have hne : other ≠ a.1 := ha ▸ hother
        rw [if_pos (beq_iff_eq.mpr ha), lookup_cons_of_ne hother, lookup_cons_of_ne hne, ih]
      · rw [if_neg (by simpa using ha), List.lookup_cons, List.lookup_cons, ih]
  unfold putBy
  split
  · exact hmap
  · rw [List.lookup_append, lookup_cons_of_ne hother, List.lookup_nil, Option.or_none]

theorem lookup_filter_of_ne (hother : other ≠ key) :
    (as.filter fun b => b.1 != key).lookup other = as.lookup other := by
  induction as with
  | nil => rfl
  | cons a as ih =>
    by_cases ha : a.1 = key
    · have hne : other ≠ a.1 := ha ▸ hother
      rw [List.filter_cons_of_neg (by simpa using ha), ih, lookup_cons_of_ne hne]
    · rw [List.filter_cons_of_pos (by simpa using ha), List.lookup_cons, List.lookup_cons, ih]

end Lookup

variable {files files' : FileSystem} {location other : List String}

theorem entry?_put_self (hlocation : location ≠ []) (entry : FileEntry) :
    entry? (files.put location entry) location = some entry := by
  cases location with
  | nil => exact absurd rfl hlocation
  | cons name names => exact lookup_putBy_self entry

theorem entry?_put_of_ne (hother : other ≠ location) (entry : FileEntry) :
    entry? (files.put location entry) other = files.entry? other := by
  cases other with
  | nil => rfl
  | cons name names => exact lookup_putBy_of_ne hother entry

theorem entry?_erase_of_ne (hother : other ≠ location) :
    entry? (files.erase location) other = files.entry? other := by
  cases other with
  | nil => rfl
  | cons name names => exact lookup_filter_of_ne hother

/-- What is put at a location where nothing was recorded, and taken away again, leaves no trace. -/
theorem erase_put (hfree : ∀ entry ∈ files.entries, entry.1 ≠ location) (entry : FileEntry) :
    (files.put location entry).erase location = files := by
  have hany : ¬(files.entries.any fun other => other.1 == location) = true := by
    simp only [List.any_eq_true, beq_iff_eq, not_exists, not_and]
    exact hfree
  have hkeep : (files.entries.filter fun other => other.1 != location) = files.entries :=
    List.filter_eq_self.mpr fun other hother => bne_iff_ne.mpr (hfree other hother)
  cases files
  simp only [put, erase, putBy, if_neg hany] at *
  simp [hkeep]

theorem entry?_eq_none (hlocation : location ≠ [])
    (hfree : ∀ entry ∈ files.entries, entry.1 ≠ location) : files.entry? location = none := by
  cases location with
  | nil => exact absurd rfl hlocation
  | cons name names =>
    exact List.lookup_eq_none_iff.mpr fun entry hentry =>
      bne_iff_ne.mpr (Ne.symm (hfree entry hentry))

/-! ### Fresh names -/

theorem le_foldl_max (sizes : List Nat) (start : Nat) :
    start ≤ sizes.foldl max start ∧ ∀ size ∈ sizes, size ≤ sizes.foldl max start := by
  induction sizes generalizing start with
  | nil => exact ⟨Nat.le_refl _, fun size hsize => nomatch hsize⟩
  | cons first sizes ih =>
    obtain ⟨hstart, hsizes⟩ := ih (max start first)
    rw [List.foldl_cons, List.forall_mem_cons]
    exact ⟨Nat.le_trans (Nat.le_max_left _ _) hstart, Nat.le_trans (Nat.le_max_right _ _) hstart,
      hsizes⟩

theorem length_le_utf8Len (cs : List Char) : cs.length ≤ String.utf8Len cs := by
  induction cs with
  | nil => exact Nat.le_refl _
  | cons c cs ih =>
    rw [List.length_cons, String.utf8Len_cons]
    exact Nat.add_le_add ih (Char.utf8Size_pos c)

theorem freshName_length (files : FileSystem) : files.freshName.length =
    (files.entries.flatMap fun entry => entry.1.map String.length).foldl max maxNameSize + 1 := by
  rw [freshName, String.length_ofList, List.length_cons, List.length_replicate]

/-- A fresh name is longer than a name in a path may be. -/
theorem maxNameSize_lt_freshName (files : FileSystem) :
    maxNameSize < files.freshName.utf8ByteSize := by
  have hbytes : files.freshName.length ≤ files.freshName.utf8ByteSize := by
    rw [freshName, String.length_ofList, String.utf8ByteSize_ofList]
    exact length_le_utf8Len _
  have hlimit := (le_foldl_max (files.entries.flatMap fun entry => entry.1.map String.length)
    maxNameSize).1
  rw [freshName_length] at hbytes
  omega

/-- A fresh name stands in no location in use. -/
theorem freshName_not_mem {entry : List String × FileEntry} (hentry : entry ∈ files.entries) :
    files.freshName ∉ entry.1 := by
  intro hname
  have hle := (le_foldl_max (files.entries.flatMap fun entry => entry.1.map String.length)
    maxNameSize).2 files.freshName.length
      (List.mem_flatMap.mpr ⟨entry, hentry, List.mem_map.mpr ⟨_, hname, rfl⟩⟩)
  rw [freshName_length] at hle
  omega

theorem freshName_not_mem_of_entry? {entry : FileEntry} (h : files.entry? location = some entry) :
    files.freshName ∉ location := by
  cases location with
  | nil => exact List.not_mem_nil
  | cons name names =>
    obtain ⟨front, rest, hentries, -⟩ := List.lookup_eq_some_iff.mp h
    have hmem : (name :: names, entry) ∈ files.entries := by rw [hentries]; simp
    exact freshName_not_mem hmem

theorem freshName_free (directory : List String) :
    ∀ entry ∈ files.entries, entry.1 ≠ directory ++ [files.freshName] := by
  intro entry hentry h
  exact freshName_not_mem hentry (h ▸ List.mem_append_right _ List.mem_cons_self)

/-- No path leads to what has a fresh name. -/
theorem concat_freshName_ne {name : String} (hname : name.utf8ByteSize ≤ maxNameSize)
    (above directory : List String) : above ++ [name] ≠ directory ++ [files.freshName] := by
  intro h
  have hfresh := maxNameSize_lt_freshName files
  rw [← (List.append_singleton_inj.mp h).2] at hfresh
  omega

/-! ### Where paths lead -/

/-- Where one step of a path leads from a directory. -/
def follow (location : List String) (step : String) : List String :=
  if step = "." then location else if step = ".." then location.dropLast else location ++ [step]

theorem locateFrom_cons_eq_ok {step : String} {steps target : List String} :
    files.locateFrom location (step :: steps) = .ok target ↔
      files.entry? location = some .directory ∧ step.utf8ByteSize ≤ maxNameSize ∧
        files.locateFrom (follow location step) steps = .ok target := by
  have hdot : ("." : String).utf8ByteSize ≤ maxNameSize := by decide
  have hdots : (".." : String).utf8ByteSize ≤ maxNameSize := by decide
  rw [locateFrom, follow]
  split
  · rename_i h; simp [h]
  · rename_i h; simp [h]
  · rename_i h
    split
    · rename_i hstep; simp [h, hstep, hdot]
    · split
      · rename_i hstep; simp [h, hstep, hdots]
      · split
        · rename_i hsize; simp [h, Nat.not_le.mpr hsize]
        · rename_i hsize; simp [h, Nat.not_lt.mp hsize]

theorem locateFrom_append_eq_ok {steps rest target : List String} :
    files.locateFrom location (steps ++ rest) = .ok target ↔
      ∃ middle, files.locateFrom location steps = .ok middle ∧
        files.locateFrom middle rest = .ok target := by
  induction steps generalizing location with
  | nil => simp [locateFrom]
  | cons step steps ih => simp only [List.cons_append, locateFrom_cons_eq_ok, ih, and_assoc, exists_and_left]

theorem locateFrom_dots (hlocation : files.entry? location = some .directory) (n : Nat)
    {steps target : List String} (h : files.locateFrom location steps = .ok target) :
    files.locateFrom location (List.replicate n "." ++ steps) = .ok target := by
  induction n with
  | zero => exact h
  | succ n ih => exact locateFrom_cons_eq_ok.mpr ⟨hlocation, by decide, ih⟩

/-- **Where the steps of a path lead depends on the directories on the way only**, and the names on
the way are short or stand in the location where the path begins. -/
theorem locateFrom_of_directories {p : String → Prop}
    (hshort : ∀ name, name.utf8ByteSize ≤ maxNameSize → p name)
    (hdirectory : ∀ location, (∀ name ∈ location, p name) →
      files.entry? location = some .directory → files'.entry? location = some .directory)
    {steps target : List String} (hlocation : ∀ name ∈ location, p name)
    (h : files.locateFrom location steps = .ok target) :
    files'.locateFrom location steps = .ok target ∧ ∀ name ∈ target, p name := by
  induction steps generalizing location with
  | nil => exact ⟨h, Except.ok.inj h ▸ hlocation⟩
  | cons step steps ih =>
    obtain ⟨hentry, hsize, hrest⟩ := locateFrom_cons_eq_ok.mp h
    have hfollow : ∀ name ∈ follow location step, p name := by
      unfold follow
      split
      · exact hlocation
      · split
        · exact fun name hname => hlocation name (List.dropLast_subset _ hname)
        · exact List.forall_mem_append.mpr ⟨hlocation, by simpa using hshort step hsize⟩
    obtain ⟨hrest', htarget⟩ := ih hfollow hrest
    exact ⟨locateFrom_cons_eq_ok.mpr ⟨hdirectory _ hlocation hentry, hsize, hrest'⟩, htarget⟩

end GladeGo.FileSystem
