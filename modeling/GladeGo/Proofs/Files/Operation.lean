import GladeGo.Proofs.Files.Path
import GladeGo.Proofs.Files.System

/-! # Operations on files

When a temporary file can be made beside a file that stands, what its move to the end of a path
does, and that a move that may not replace anything is refused where something stands. -/

namespace GladeGo.FileSystem

open FilePath (maxNameSize maxSize steps endsInSlash isAbsolute)

variable {files files' : FileSystem} {path : String} {target : List String}

theorem checkPath_eq_ok : checkPath path = .ok () ↔
    '\x00' ∉ path.toList ∧ path ≠ "" ∧ path.utf8ByteSize ≤ maxSize := by
  unfold checkPath
  by_cases hzero : '\x00' ∈ path.toList
  · simp [hzero]
  · by_cases hempty : path = ""
    · simp [hempty]
    · by_cases hsize : maxSize < path.utf8ByteSize
      · simp [hzero, hempty, hsize]
      · simp [hzero, hempty, hsize, Nat.not_lt.mp hsize]

theorem checkPath_eq_nameTooLong (hzero : '\x00' ∉ path.toList) (hsize : maxSize < path.utf8ByteSize) :
    checkPath path = .error .nameTooLong := by
  have hempty : path ≠ "" := fun h => by simp [h] at hsize
  unfold checkPath
  rw [if_neg (by simpa using hzero), if_neg hempty, if_pos hsize]

theorem locate_eq_ok : files.locate path = .ok target ↔ checkPath path = .ok () ∧
    files.locateFrom (files.start path) (steps path ++ if endsInSlash path then ["."] else []) =
      .ok target := by
  rw [locate, bind_eq_ok]
  exact ⟨fun ⟨_, hpath, h⟩ => ⟨hpath, h⟩, fun ⟨hpath, h⟩ => ⟨(), hpath, h⟩⟩

theorem find_eq_ok {entry : FileEntry} : files.find path = .ok entry ↔
    ∃ location, files.locate path = .ok location ∧ files.entry? location = some entry := by
  rw [find, bind_eq_ok]
  refine exists_congr fun location => and_congr_right fun _ => ?_
  cases files.entry? location <;> simp

/-- If a path leads to something, then something stands where its steps begin. -/
theorem entry?_start {entry : FileEntry} (h : files.find path = .ok entry) :
    ∃ first, files.entry? (files.start path) = some first := by
  obtain ⟨target, htarget, hentry⟩ := find_eq_ok.mp h
  obtain ⟨-, hlocate⟩ := locate_eq_ok.mp htarget
  generalize steps path ++ (if endsInSlash path then ["."] else []) = all at hlocate
  cases all with
  | nil =>
    obtain rfl : files.start path = target := Except.ok.inj hlocate
    exact ⟨entry, hentry⟩
  | cons step steps => exact ⟨.directory, (locateFrom_cons_eq_ok.mp hlocate).1⟩

theorem isThere_iff : files.isThere path = true ↔ ∃ entry, files.find path = .ok entry := by
  rw [isThere]
  cases files.find path <;> simp

/-! ### Paths in two file systems -/

section TwoSystems
variable {p : String → Prop} (hshort : ∀ name, name.utf8ByteSize ≤ maxNameSize → p name)
  (hstart : ∀ name ∈ files.start path, p name)
  (hworking : files'.workingDirectory = files.workingDirectory)
include hshort hstart hworking

theorem locate_of_directories (hdirectory : ∀ location, (∀ name ∈ location, p name) →
      files.entry? location = some .directory → files'.entry? location = some .directory)
    (h : files.locate path = .ok target) :
    files'.locate path = .ok target ∧ ∀ name ∈ target, p name := by
  obtain ⟨hpath, hlocate⟩ := locate_eq_ok.mp h
  obtain ⟨hlocate', htarget⟩ := locateFrom_of_directories hshort hdirectory hstart hlocate
  have hsame : files'.start path = files.start path := by rw [start, start, hworking]
  exact ⟨locate_eq_ok.mpr ⟨hpath, hsame ▸ hlocate'⟩, htarget⟩

/-- What a path leads to stays if no entry on its way is lost. -/
theorem find_of_entries (hentries : ∀ location, (∀ name ∈ location, p name) →
      ∀ entry, files.entry? location = some entry → files'.entry? location = some entry)
    {entry : FileEntry} (h : files.find path = .ok entry) : files'.find path = .ok entry := by
  obtain ⟨target, htarget, hentry⟩ := find_eq_ok.mp h
  obtain ⟨htarget', hnames⟩ := locate_of_directories hshort hstart hworking
    (fun location hlocation => hentries location hlocation .directory) htarget
  exact find_eq_ok.mpr ⟨target, htarget', hentries target hnames entry hentry⟩

end TwoSystems

/-- A file that is put where nothing stood changes nothing at the end of any path that led to
something. -/
theorem find_put {location : List String} {entry : FileEntry} (hnone : files.entry? location = none)
    (new : FileEntry) (h : files.find path = .ok entry) :
    (files.put location new).find path = .ok entry := by
  refine @find_of_entries files (files.put location new) path (fun _ => True)
    (fun _ _ => trivial) (fun _ _ => trivial) rfl (fun other _ found hfound => ?_) _ h
  have hne : other ≠ location := fun h => Option.some_ne_none found (by rw [← hfound, h, hnone])
  rw [entry?_put_of_ne hne, hfound]

theorem directory_put_file {location other : List String} {content : ByteArray}
    (hlocation : files.entry? location ≠ some .directory)
    (h : files.entry? other = some .directory) :
    entry? (files.put location (.file content)) other = some .directory := by
  have hne : other ≠ location := fun hother => hlocation (hother ▸ h)
  rw [entry?_put_of_ne hne, h]

/-- Paths lead where they led when a file is put in at a place where no directory stood. -/
theorem locate_put_file {location : List String} {content : ByteArray}
    (hlocation : files.entry? location ≠ some .directory) (h : files.locate path = .ok target) :
    (files.put location (.file content)).locate path = .ok target := by
  refine (@locate_of_directories files (files.put location (.file content)) path target
    (fun _ => True) (fun _ _ => trivial) (fun _ _ => trivial) rfl
    (fun other _ => directory_put_file hlocation) h).1

/-- A file at a location does not lead on to anything. -/
theorem locate_of_locate_put_file {location : List String} {content : ByteArray}
    (hlocation : location ≠ [])
    (h : (files.put location (.file content)).locate path = .ok target) :
    files.locate path = .ok target := by
  refine (@locate_of_directories (files.put location (.file content)) files path target
    (fun _ => True) (fun _ _ => trivial) (fun _ _ => trivial) rfl (fun other _ hother => ?_) h).1
  by_cases hne : other = location
  · rw [hne, entry?_put_self hlocation] at hother
    exact (nomatch hother)
  · rwa [entry?_put_of_ne hne] at hother

/-! ### Places -/

theorem place?_of_steps {init directory : List String} {last : String}
    (hpath : checkPath path = .ok ()) (hsteps : steps path = init ++ [last])
    (hinit : files.locateFrom (files.start path) init = .ok directory)
    (hdirectory : files.entry? directory = some .directory) : files.place? path =
      .ok (if last = "." || last = ".." then none else some ⟨directory, last⟩) := by
  have hlocate : files.locateFrom (files.start path) (init ++ ["."]) = .ok directory :=
    locateFrom_append_eq_ok.mpr ⟨directory, hinit,
      locateFrom_cons_eq_ok.mpr ⟨hdirectory, by decide, rfl⟩⟩
  rw [place?, hpath, ok_bind, hsteps, List.getLast?_concat, List.dropLast_concat]
  simp only [hlocate, ok_bind]

/-- A path that leads to a location leads to a place there, or to a directory by its last step. -/
theorem place?_of_locate (h : files.locate path = .ok target) : files.place? path = .ok none ∨
    ∃ place, files.place? path = .ok (some place) ∧ place.location = .ok target := by
  obtain ⟨hpath, hlocate⟩ := locate_eq_ok.mp h
  rcases List.eq_nil_or_concat' (steps path) with hsteps | ⟨init, last, hsteps⟩
  · refine .inl ?_
    rw [place?, hpath, ok_bind, hsteps]
    rfl
  · rw [hsteps, List.append_assoc, List.singleton_append, locateFrom_append_eq_ok] at hlocate
    obtain ⟨directory, hinit, hlast⟩ := hlocate
    obtain ⟨hdirectory, hsize, hrest⟩ := locateFrom_cons_eq_ok.mp hlast
    rw [place?_of_steps hpath hsteps hinit hdirectory]
    by_cases hstep : last = "." ∨ last = ".."
    · exact .inl (by simp [hstep])
    · refine .inr ⟨⟨directory, last⟩, by simpa using hstep, ?_⟩
      have htarget : target = directory ++ [last] := by
        rw [follow, if_neg fun h => hstep (.inl h), if_neg fun h => hstep (.inr h)] at hrest
        split at hrest
        · exact (Except.ok.inj (locateFrom_cons_eq_ok.mp hrest).2.2).symm
        · exact (Except.ok.inj hrest).symm
      rw [Place.location, if_neg (Nat.not_lt.mpr hsize), htarget]

theorem place?_eq_some_iff {place : Place} : files.place? path = .ok (some place) ↔
    checkPath path = .ok () ∧ ∃ init, steps path = init ++ [place.name] ∧
      files.locateFrom (files.start path) init = .ok place.directory ∧
      files.entry? place.directory = some .directory ∧ place.name ≠ "." ∧ place.name ≠ ".." := by
  constructor
  · intro h
    unfold place? at h
    obtain ⟨_, hpath, h⟩ := bind_eq_ok.mp h
    rcases List.eq_nil_or_concat' (steps path) with hsteps | ⟨init, last, hsteps⟩
    · rw [hsteps] at h
      exact (nomatch h)
    · rw [hsteps, List.getLast?_concat, List.dropLast_concat] at h
      obtain ⟨directory, hlocate, h⟩ := bind_eq_ok.mp h
      obtain ⟨middle, hinit, hdot⟩ := locateFrom_append_eq_ok.mp hlocate
      obtain ⟨hdirectory, -, hmiddle⟩ := locateFrom_cons_eq_ok.mp hdot
      obtain rfl : middle = directory := Except.ok.inj hmiddle
      split at h
      · exact (nomatch h)
      · rename_i hstep
        obtain rfl := Option.some.inj (Except.ok.inj h)
        exact ⟨hpath, init, hsteps, hinit, hdirectory, by simpa using hstep⟩
  · rintro ⟨hpath, init, hsteps, hinit, hdirectory, hdot, hdots⟩
    rw [place?_of_steps hpath hsteps hinit hdirectory]
    simp [hdot, hdots]

theorem place_location_eq_ok {place : Place} : place.location = .ok target ↔
    place.name.utf8ByteSize ≤ maxNameSize ∧ target = place.directory ++ [place.name] := by
  unfold Place.location
  split
  · rename_i hsize
    simp [Nat.not_le.mpr hsize]
  · rename_i hsize
    simp [Nat.not_lt.mp hsize, eq_comm]

/-- A path without a slash at its end leads to its place. -/
theorem locate_of_place? {place : Place} (h : files.place? path = .ok (some place))
    (hlocation : place.location = .ok target) (hslash : endsInSlash path = false) :
    files.locate path = .ok target := by
  obtain ⟨hpath, init, hsteps, hinit, hdirectory, hdot, hdots⟩ := place?_eq_some_iff.mp h
  obtain ⟨hsize, rfl⟩ := place_location_eq_ok.mp hlocation
  refine locate_eq_ok.mpr ⟨hpath, ?_⟩
  rw [hslash, hsteps, if_neg Bool.false_ne_true, List.append_nil, locateFrom_append_eq_ok]
  refine ⟨_, hinit, locateFrom_cons_eq_ok.mpr ⟨hdirectory, hsize, ?_⟩⟩
  rw [follow, if_neg hdot, if_neg hdots]
  rfl

/-- A path leads to the same place when a file is put in where no directory stood. -/
theorem place?_put_file {place : Place} {location : List String} {content : ByteArray}
    (hlocation : files.entry? location ≠ some .directory)
    (h : files.place? path = .ok (some place)) :
    (files.put location (.file content)).place? path = .ok (some place) := by
  obtain ⟨hpath, init, hsteps, hinit, hdirectory, hnames⟩ := place?_eq_some_iff.mp h
  obtain ⟨hinit', -⟩ := @locateFrom_of_directories files (files.put location (.file content)) _
    (fun _ => True) (fun _ _ => trivial) (fun other _ => directory_put_file hlocation) _ _
    (fun _ _ => trivial) hinit
  exact place?_eq_some_iff.mpr
    ⟨hpath, init, hsteps, hinit', directory_put_file hlocation hdirectory, hnames⟩

/-! ### Temporary files -/

theorem createFresh_eq_ok {directory : String} {content : ByteArray} {fresh : List String}
    (h : files.createFresh directory content = .ok (fresh, files')) :
    ∃ location, files.locate directory = .ok location ∧ files.entry? location = some .directory ∧
      fresh = location ++ [files.freshName] ∧ files' = files.put fresh (.file content) := by
  unfold createFresh at h
  obtain ⟨_, -, h⟩ := bind_eq_ok.mp h
  obtain ⟨location, hlocation, h⟩ := bind_eq_ok.mp h
  split at h
  · exact (nomatch h)
  · exact (nomatch h)
  · rename_i hdirectory
    obtain ⟨rfl, rfl⟩ := Prod.mk.inj (Except.ok.inj h)
    exact ⟨location, hlocation, hdirectory, rfl, rfl⟩

theorem checkPath_directory (h : checkPath path = .ok ()) {rest : String}
    (hsplit : path = FilePath.directory path ++ "/" ++ rest)
    (hempty : FilePath.directory path ≠ "") : checkPath (FilePath.directory path) = .ok () := by
  obtain ⟨hzero, -, hsize⟩ := checkPath_eq_ok.mp h
  have hchars : path.toList = (FilePath.directory path).toList ++ ("/" ++ rest).toList := by
    rw [← String.toList_append, ← String.append_assoc, ← hsplit]
  have hbytes : path.utf8ByteSize =
      (FilePath.directory path).utf8ByteSize + ("/" ++ rest).utf8ByteSize := by
    rw [← String.utf8ByteSize_append, ← String.append_assoc, ← hsplit]
  refine checkPath_eq_ok.mpr ⟨fun hmem => hzero ?_, hempty, by omega⟩
  exact hchars ▸ List.mem_append_left _ hmem

theorem start_directory (files : FileSystem) (path : String) :
    files.start (FilePath.directory path) = files.start path := by
  rw [start, start, FilePath.isAbsolute_directory]

/-- **The directory of a path that leads somewhere stands.** -/
theorem locate_directory (h : files.locate path = .ok target) :
    ∃ location, files.locate (FilePath.directory path) = .ok location ∧
      files.entry? location = some .directory := by
  obtain ⟨hpath, hlocate⟩ := locate_eq_ok.mp h
  rcases FilePath.directory_cases path with
    ⟨rest, names, hsplit, hempty, hslash, hnames, hsteps⟩ | hdirectory
  · obtain ⟨name, names, rfl⟩ := List.exists_cons_of_ne_nil hnames
    rw [hsteps, List.append_assoc, List.cons_append, locateFrom_append_eq_ok] at hlocate
    obtain ⟨location, hlocation, hrest⟩ := hlocate
    refine ⟨location, locate_eq_ok.mpr ⟨checkPath_directory hpath hsplit hempty, ?_⟩,
      (locateFrom_cons_eq_ok.mp hrest).1⟩
    rw [hslash, if_neg Bool.false_ne_true, List.append_nil, start_directory]
    exact hlocation
  · by_cases habsolute : isAbsolute path = true
    · rw [hdirectory, if_pos habsolute]
      exact ⟨[], rfl, rfl⟩
    · obtain ⟨step, others, hsteps⟩ := List.exists_cons_of_ne_nil
        (FilePath.steps_ne_nil (checkPath_eq_ok.mp hpath).2.1 habsolute)
      rw [hsteps, List.cons_append, start, if_neg habsolute, locateFrom_cons_eq_ok] at hlocate
      rw [hdirectory, if_neg habsolute]
      have hdot : checkPath "." = .ok () := by decide
      refine ⟨files.workingDirectory, locate_eq_ok.mpr ⟨hdot, ?_⟩, hlocate.1⟩
      exact locateFrom_cons_eq_ok.mpr ⟨hlocate.1, by decide, rfl⟩

/-- A temporary file can be made beside a file that stands if its own path is not too long. -/
theorem createFresh_directory (h : files.locate path = .ok target)
    (htemporary : checkPath (FilePath.inside (files.fromTop (FilePath.directory path))
      FilePath.temporaryName) = .ok ()) (content : ByteArray) :
    ∃ fresh files', files.createFresh (FilePath.directory path) content = .ok (fresh, files') := by
  obtain ⟨location, hlocation, hdirectory⟩ := locate_directory h
  refine ⟨location ++ [files.freshName],
    files.put (location ++ [files.freshName]) (.file content), ?_⟩
  rw [createFresh, htemporary, ok_bind, hlocation, ok_bind, hdirectory]

/-! ### Moves -/

/-- **What a move does.** It leads to a place where no directory stands, nor a file that may not be
replaced. -/
theorem move_eq_ok {source : List String} {replace : Bool}
    (h : files.move source path replace = .ok files') :
    ∃ target entry, files.locate path = .ok target ∧
      (∃ directory name, target = directory ++ [name] ∧ name.utf8ByteSize ≤ maxNameSize) ∧
      files.entry? source = some entry ∧ (replace = false → files.entry? target = none) ∧
      files.entry? target ≠ some .directory ∧ files' = (files.erase source).put target entry := by
  unfold move at h
  obtain ⟨place?, hplace, h⟩ := bind_eq_ok.mp h
  cases place? with
  | none => exact (nomatch h)
  | some place =>
    obtain ⟨target, htarget, h⟩ := bind_eq_ok.mp h
    split at h
    · exact (nomatch h)
    · rename_i entry hsource
      split_ifs at h with hfound hslash hdirectory
      obtain ⟨hsize, hname⟩ := place_location_eq_ok.mp htarget
      refine ⟨target, entry, locate_of_place? hplace htarget (by simpa using hslash),
        ⟨_, _, hname, hsize⟩, hsource, fun hreplace => ?_, fun hentry => ?_,
        (Except.ok.inj h).symm⟩
      · simpa [hreplace] using hfound
      · exact hdirectory (by rw [hentry]; rfl)

theorem move_of_place {place : Place} {source : List String} {entry : FileEntry}
    (hplace : files.place? path = .ok (some place)) (hlocation : place.location = .ok target)
    (hslash : endsInSlash path = false) (hsource : files.entry? source = some entry)
    (hnone : files.entry? target = none) (replace : Bool) :
    files.move source path replace = .ok ((files.erase source).put target entry) := by
  rw [move, hplace, ok_bind]
  simp [hlocation, hsource, hnone, hslash, ok_bind]

/-- **A move that may not replace is refused where something stands**, and for that reason unless
there is nothing to move. -/
theorem move_of_find {source : List String} {entry : FileEntry} (h : files.find path = .ok entry) :
    ∃ fault, files.move source path false = .error fault ∧
      (fault = .alreadyExists ∨ files.entry? source = none) := by
  obtain ⟨target, htarget, hentry⟩ := find_eq_ok.mp h
  rcases place?_of_locate htarget with hplace | ⟨place, hplace, hlocation⟩
  · exact ⟨.alreadyExists, by rw [move, hplace, ok_bind]; rfl, .inl rfl⟩
  · rw [move, hplace, ok_bind]
    simp only [hlocation, ok_bind, hentry]
    cases hsource : files.entry? source with
    | none => exact ⟨.notFound, rfl, .inr rfl⟩
    | some moved => exact ⟨.alreadyExists, rfl, .inl rfl⟩

end GladeGo.FileSystem
