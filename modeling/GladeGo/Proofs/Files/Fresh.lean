import GladeGo.Proofs.Files.Operation

/-! # Places for new files

A path is fresh if it leads to a place in a directory that stands, and nothing is at the place. A
temporary file can be made beside it and moved there (`TakesFile`) exactly if the name at the place
is short enough, the path has no slash at its end and the path of the temporary file is not too long
(`IsFresh.takesFile_iff`). -/

namespace GladeGo.FileSystem

open FilePath (maxNameSize endsInSlash)

variable {files files' : FileSystem} {path : String} {place : Place} {content : ByteArray}
  {replace : Bool}

/-- Nothing is at the place that a path leads to, in a directory that stands. -/
structure IsFresh (files : FileSystem) (path : String) (place : Place) : Prop where
  leads : files.place? path = .ok (some place)
  free : files.entry? (place.directory ++ [place.name]) = none

/-- A temporary file with the given content can be made in the directory of a path, and moved to the
end of the path. -/
def TakesFile (files : FileSystem) (path : String) (content : ByteArray) (replace : Bool) : Prop :=
  ∃ fresh between after,
    files.createFresh (FilePath.directory path) content = .ok (fresh, between) ∧
    between.move fresh path replace = .ok after

/-- The name at a place, the path to it and the path of a temporary file beside it are such as paths
and names may be. -/
structure Admits (files : FileSystem) (path : String) (place : Place) : Prop where
  name : place.name.utf8ByteSize ≤ maxNameSize
  noSlash : endsInSlash path = false
  temporary : checkPath (FilePath.inside (files.fromTop (FilePath.directory path))
    FilePath.temporaryName) = .ok ()

theorem IsFresh.not_isThere (h : files.IsFresh path place) : files.isThere path = false := by
  refine Bool.eq_false_iff.mpr fun hthere => ?_
  obtain ⟨entry, hfind⟩ := isThere_iff.mp hthere
  obtain ⟨target, hlocate, hentry⟩ := find_eq_ok.mp hfind
  rcases place?_of_locate hlocate with hnone | ⟨found, hfound, hlocation⟩
  · cases h.leads.symm.trans hnone
  · obtain rfl : place = found := Option.some.inj (Except.ok.inj (h.leads.symm.trans hfound))
    obtain ⟨-, rfl⟩ := place_location_eq_ok.mp hlocation
    cases h.free.symm.trans hentry

theorem checkPath_of_createFresh {directory : String}
    {created : List String × FileSystem}
    (h : files.createFresh directory content = .ok created) :
    checkPath (FilePath.inside (files.fromTop directory) FilePath.temporaryName) = .ok () := by
  obtain ⟨_, hcheck, -⟩ := bind_eq_ok.mp h
  exact hcheck

/-- What is moved to a place has a short name there, and no slash behind it. -/
theorem short_of_move {source : List String}
    (hplace : files.place? path = .ok (some place))
    (h : files.move source path replace = .ok files') :
    place.name.utf8ByteSize ≤ maxNameSize ∧ endsInSlash path = false := by
  rw [move, hplace, ok_bind] at h
  obtain ⟨target, htarget, h⟩ := bind_eq_ok.mp h
  refine ⟨(place_location_eq_ok.mp htarget).1, ?_⟩
  split at h
  · cases h
  · split_ifs at h with hfound hslash
    simpa using hslash

/-- **A fresh place takes a file** exactly if the names and paths are such as they may be. -/
theorem IsFresh.takesFile_iff (h : files.IsFresh path place) :
    files.TakesFile path content replace ↔ files.Admits path place := by
  constructor
  · rintro ⟨fresh, between, after, hcreate, hmove⟩
    have htemporary := checkPath_of_createFresh hcreate
    obtain ⟨location, -, -, rfl, rfl⟩ := createFresh_eq_ok hcreate
    have hnone := entry?_eq_none (by simp) (@freshName_free files location)
    obtain ⟨hname, hslash⟩ := short_of_move (place?_put_file (by simp [hnone]) h.leads) hmove
    exact ⟨hname, hslash, htemporary⟩
  · rintro ⟨hname, hslash, htemporary⟩
    have hlocation := place_location_eq_ok.mpr ⟨hname, rfl⟩
    obtain ⟨fresh, between, hcreate⟩ :=
      createFresh_directory (locate_of_place? h.leads hlocation hslash) htemporary content
    obtain ⟨location, -, -, rfl, rfl⟩ := createFresh_eq_ok hcreate
    have hnone := entry?_eq_none (by simp) (@freshName_free files location)
    have hne := @concat_freshName_ne files _ hname place.directory location
    have hfree := (entry?_put_of_ne hne (.file content)).trans h.free
    have hmove := move_of_place (place?_put_file (by simp [hnone]) h.leads) hlocation hslash
      (entry?_put_self (by simp) (.file content)) hfree replace
    exact ⟨_, _, _, hcreate, hmove⟩

end GladeGo.FileSystem
