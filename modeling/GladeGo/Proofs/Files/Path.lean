import GladeGo.Files.Path
import Mathlib.Data.List.Basic

/-! # The directory of a path

A path begins with the path of its directory, unless it has one name at most: then its directory is
the top or the working directory (`directory_cases`). -/

namespace GladeGo.FilePath

/-! ### Pieces -/

theorem not_mem_of_mem_splitOn {α : Type} [BEq α] [LawfulBEq α] {a : α} {as piece : List α}
    (h : piece ∈ as.splitOn a) : a ∉ piece := by
  induction as generalizing piece with
  | nil =>
    rw [List.splitOn_nil, List.mem_singleton] at h
    exact h ▸ List.not_mem_nil
  | cons b as ih =>
    rw [List.splitOn_cons_eq_if_modifyHead] at h
    split at h
    · rcases List.mem_cons.mp h with rfl | h
      · exact List.not_mem_nil
      · exact ih h
    · rename_i hb
      cases hpieces : as.splitOn a with
      | nil => exact absurd hpieces (List.splitOn_ne_nil a as)
      | cons first pieces =>
        rw [hpieces] at ih
        rw [hpieces, List.modifyHead_cons] at h
        rcases List.mem_cons.mp h with rfl | h
        · have hne : a ≠ b := fun hab => hb (beq_iff_eq.mpr hab.symm)
          exact List.not_mem_cons_of_ne_of_not_mem hne (ih List.mem_cons_self)
        · exact ih (List.mem_cons_of_mem _ h)

theorem not_mem_of_mem_pieces {path piece : String} (h : piece ∈ pieces path) :
    '/' ∉ piece.toList := by
  obtain ⟨cs, hcs, rfl⟩ := List.mem_map.mp h
  rw [String.toList_ofList]
  exact not_mem_of_mem_splitOn hcs

theorem toList_slash : ("/" : String).toList = ['/'] := by decide

/-- A path is the text of its pieces. -/
theorem intercalate_pieces (path : String) : "/".intercalate (pieces path) = path := by
  rw [← String.toList_inj, String.toList_intercalate, toList_slash, pieces, List.map_map]
  have hid : String.toList ∘ String.ofList = id := funext fun _ => String.toList_ofList
  rw [hid, List.map_id, List.intercalate_splitOn]

/-- The pieces that a path is written from. -/
theorem pieces_intercalate {ps : List String} (hps : ps ≠ []) (h : ∀ p ∈ ps, '/' ∉ p.toList) :
    pieces ("/".intercalate ps) = ps := by
  have hid : String.ofList ∘ String.toList = id := funext fun _ => String.ofList_toList
  rw [pieces, String.toList_intercalate, toList_slash,
    List.splitOn_intercalate '/' (List.forall_mem_map.mpr h) (by simpa using hps), List.map_map,
    hid, List.map_id]

theorem pieces_append (path rest : String) :
    pieces (path ++ "/" ++ rest) = pieces path ++ pieces rest := by
  rw [pieces, String.toList_append, String.toList_append, toList_slash, List.append_assoc,
    List.singleton_append, List.splitOn_append_cons_self, List.map_append]
  rfl

theorem steps_append (path rest : String) :
    steps (path ++ "/" ++ rest) = steps path ++ steps rest := by
  rw [steps, pieces_append, List.filter_append]
  rfl

theorem pieces_of_name {name : String} (h : '/' ∉ name.toList) : pieces name = [name] := by
  rw [pieces, List.splitOn_eq_singleton h, List.map_singleton, String.ofList_toList]

/-- A path from the working directory has a step. -/
theorem steps_ne_nil {path : String} (hempty : path ≠ "") (habsolute : isAbsolute path ≠ true) :
    steps path ≠ [] := by
  cases hpath : path.toList with
  | nil => exact absurd (String.toList_inj.mp hpath) hempty
  | cons c cs =>
    have hc : ¬(c == '/') = true := by simpa [isAbsolute, hpath] using habsolute
    cases hpieces : cs.splitOn '/' with
    | nil => exact absurd hpieces (List.splitOn_ne_nil _ cs)
    | cons first others =>
      have hmem : String.ofList (c :: first) ∈ pieces path := by
        rw [pieces, hpath, List.splitOn_cons_eq_if_modifyHead, if_neg hc, hpieces]
        exact List.mem_cons_self
      refine List.ne_nil_of_mem (List.mem_filter.mpr ⟨hmem, bne_iff_ne.mpr fun h => ?_⟩)
      exact List.cons_ne_nil c first (String.ofList_eq_empty_iff.mp h)

/-! ### The path above -/

theorem endsAtNames_eq_cons {ps first : List String} {ends : List (List String)}
    (h : endsAtNames ps = first :: ends) : ∃ front name rest, ps = front ++ name :: rest ∧
      isName name = true ∧ first = name :: rest ∧ ends = endsAtNames rest := by
  induction ps with
  | nil => exact (nomatch h)
  | cons piece ps ih =>
    rw [endsAtNames] at h
    split at h
    · rename_i hname
      obtain ⟨rfl, rfl⟩ := List.cons.inj h
      exact ⟨[], piece, ps, rfl, hname, rfl, rfl⟩
    · obtain ⟨front, name, rest, rfl, hspec⟩ := ih h
      exact ⟨piece :: front, name, rest, rfl, hspec⟩

/-- What is above a path in which there are two names: the pieces up to the last name but one. -/
theorem above_eq_cons {path first : String} {others : List String}
    (h : above path = first :: others) : ∃ ps qs name last, pieces path = ps ++ name :: qs ∧
      isName name = true ∧ last ∈ qs ∧ isName last = true ∧
      first = "/".intercalate (ps ++ [name]) := by
  unfold above at h
  cases hends : endsAtNames (pieces path).reverse with
  | nil => rw [hends] at h; exact (nomatch h)
  | cons whole ends =>
    obtain ⟨front, last, rest, hpath, hlast, -, rfl⟩ := endsAtNames_eq_cons hends
    rw [hends, List.tail_cons] at h
    cases hrest : endsAtNames rest with
    | nil => rw [hrest] at h; exact (nomatch h)
    | cons half ends =>
      obtain ⟨middle, name, rest, rfl, hname, rfl, -⟩ := endsAtNames_eq_cons hrest
      rw [hrest, List.map_cons, List.reverse_cons] at h
      refine ⟨rest.reverse, middle.reverse ++ [last] ++ front.reverse, name, last, ?_, hname, ?_,
        hlast, (List.cons.inj h).1.symm⟩
      · rw [← List.reverse_reverse (pieces path), hpath]
        simp
      · simp

theorem not_endsInSlash_append {front name : String} (hname : name ≠ "")
    (hslash : '/' ∉ name.toList) : endsInSlash (front ++ name) = false := by
  have hlast : name.toList ≠ [] := fun h => hname (String.toList_inj.mp h)
  have hne : name.toList.getLast hlast ≠ '/' := fun h => hslash (h ▸ List.getLast_mem hlast)
  rw [endsInSlash, String.toList_append, List.getLast?_append_of_ne_nil _ hlast,
    List.getLast?_eq_some_getLast hlast]
  simpa using hne

theorem exists_intercalate_concat (ps : List String) (name : String) :
    ∃ front, "/".intercalate (ps ++ [name]) = front ++ name := by
  by_cases hps : ps = []
  · exact ⟨"", by rw [hps, List.nil_append, String.intercalate_singleton, String.empty_append]⟩
  · exact ⟨_, by rw [String.intercalate_append_of_ne_nil hps (by simp),
      String.intercalate_singleton]⟩

/-- **The directory of a path**: what stands before a slash and one last name, with what that name
is written with, or the top or the working directory. -/
theorem directory_cases (path : String) :
    (∃ rest names, path = directory path ++ "/" ++ rest ∧ directory path ≠ "" ∧
      endsInSlash (directory path) = false ∧ names ≠ [] ∧
      steps path = steps (directory path) ++ names) ∨
    directory path = if isAbsolute path then "/" else "." := by
  cases habove : above path with
  | nil => exact .inr (by rw [directory, habove, List.headD_nil])
  | cons first others =>
    have hdirectory : directory path = first := by rw [directory, habove, List.headD_cons]
    obtain ⟨ps, qs, name, last, hpath, hname, hmem, hlast, hfirst⟩ := above_eq_cons habove
    have hpieces : pieces path = (ps ++ [name]) ++ qs := by rw [hpath]; simp
    have hne : ∀ piece, isName piece = true → piece ≠ "" := fun piece hpiece =>
      bne_iff_ne.mp (Bool.and_eq_true_iff.mp hpiece).1
    have hslash : ∀ p ∈ ps ++ [name], '/' ∉ p.toList := fun p hp =>
      not_mem_of_mem_pieces (hpieces ▸ List.mem_append_left qs hp)
    have hown : pieces first = ps ++ [name] := by
      rw [hfirst]
      exact pieces_intercalate (by simp) hslash
    obtain ⟨front, hfront⟩ := exists_intercalate_concat ps name
    have hend : endsInSlash first = false :=
      hfirst ▸ hfront ▸ not_endsInSlash_append (hne name hname) (hslash name (by simp))
    have hempty : first ≠ "" := by
      rw [hfirst, hfront, ne_eq, String.append_eq_empty_iff, not_and]
      exact fun _ => hne name hname
    rw [hdirectory]
    refine .inl ⟨"/".intercalate qs, qs.filter (· != ""), ?_, hempty, hend, ?_, ?_⟩
    · rw [hfirst, ← String.intercalate_append_of_ne_nil (by simp) (List.ne_nil_of_mem hmem),
        ← hpieces, intercalate_pieces]
    · exact List.ne_nil_of_mem (List.mem_filter.mpr ⟨hmem, bne_iff_ne.mpr (hne last hlast)⟩)
    · rw [steps, hpieces, List.filter_append, steps, hown]

theorem isAbsolute_directory (path : String) : isAbsolute (directory path) = isAbsolute path := by
  rcases directory_cases path with ⟨rest, names, hsplit, hempty, -⟩ | hdirectory
  · have hne : (directory path).toList ≠ [] := fun h => hempty (String.toList_inj.mp h)
    conv_rhs => rw [hsplit, String.append_assoc]
    rw [isAbsolute, isAbsolute, String.toList_append, List.head?_append_of_ne_nil _ hne]
  · rw [hdirectory]
    by_cases habsolute : isAbsolute path = true
    · rw [if_pos habsolute, habsolute]
      decide
    · rw [if_neg habsolute, Bool.not_eq_true _ |>.mp habsolute]
      decide

/-- The directory of what has a name in a directory that ends in a name. -/
theorem directory_append {path name last : String} {front : List String}
    (hpath : pieces path = front ++ [last]) (hlast : isName last = true)
    (hname : isName name = true) (hslash : '/' ∉ name.toList) :
    directory (path ++ "/" ++ name) = path := by
  have hreverse : (pieces (path ++ "/" ++ name)).reverse = name :: (pieces path).reverse := by
    rw [pieces_append, pieces_of_name hslash, List.reverse_append, List.reverse_singleton,
      List.singleton_append]
  have hends : (endsAtNames (pieces path).reverse).head? = some (pieces path).reverse := by
    rw [hpath, List.reverse_append, List.reverse_singleton, List.singleton_append, endsAtNames,
      if_pos hlast, List.head?_cons]
  obtain ⟨others, hothers⟩ := List.head?_eq_some_iff.mp hends
  rw [directory, above, hreverse, endsAtNames, if_pos hname, List.tail_cons, hothers,
    List.map_cons, List.headD_cons, List.reverse_reverse, intercalate_pieces]

theorem exists_inside (directory name : String) :
    ∃ slash, inside directory name = directory ++ slash ++ name ∧ (slash = "" ∨ slash = "/") := by
  unfold inside
  split
  · exact ⟨"", by rw [String.append_empty], .inl rfl⟩
  · exact ⟨"/", rfl, .inr rfl⟩

end GladeGo.FilePath
