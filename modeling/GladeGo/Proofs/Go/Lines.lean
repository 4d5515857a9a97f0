import GladeGo.Proofs.Files.Path
import GladeGo.Proofs.Go.SourceFile

/-! # The lines of a generated text

A text is split at its line feeds. The lines that a section is written from are the lines of its
text only if none of them breaks a line. -/

namespace GladeGo.Go

variable {text : String}

/-- The lines of a text. -/
def linesOf (text : String) : List String := (text.toList.splitOn '\n').map String.ofList

theorem splitOn_append_of_not_mem {α : Type} [BEq α] [LawfulBEq α] {a : α} {as : List α}
    (h : a ∉ as) (bs : List α) :
    (as ++ bs).splitOn a = (bs.splitOn a).modifyHead (as ++ ·) := by
  induction as with
  | nil =>
    rw [List.nil_append]
    cases bs.splitOn a <;> rfl
  | cons b as ih =>
    rw [List.mem_cons, not_or] at h
    rw [List.cons_append, List.splitOn_cons_eq_if_modifyHead, if_neg, ih h.2,
      List.modifyHead_modifyHead]
    · rfl
    · exact fun hb => h.1 (beq_iff_eq.mp hb).symm

theorem linesOf_of_isLine (h : IsLine text) : linesOf text = [text] := by
  rw [linesOf, List.splitOn_eq_singleton h, List.map_singleton, String.ofList_toList]

theorem isLine_of_mem_linesOf {line : String} (h : line ∈ linesOf text) : IsLine line := by
  obtain ⟨cs, hcs, rfl⟩ := List.mem_map.mp h
  rw [IsLine, String.toList_ofList]
  exact FilePath.not_mem_of_mem_splitOn hcs

/-- The first line of a text takes what stands in front of it. -/
theorem exists_linesOf_append (h : IsLine text) (rest : String) : ∃ first more,
    linesOf rest = first :: more ∧ linesOf (text ++ rest) = (text ++ first) :: more := by
  obtain ⟨first, more, hsplit⟩ := List.exists_cons_of_ne_nil (List.splitOn_ne_nil '\n' rest.toList)
  refine ⟨String.ofList first, more.map String.ofList, by rw [linesOf, hsplit, List.map_cons], ?_⟩
  rw [linesOf, String.toList_append, splitOn_append_of_not_mem h, hsplit, List.modifyHead_cons,
    List.map_cons, String.ofList_append, String.ofList_toList]

theorem linesOf_joinLines (lines : List String) :
    linesOf (String.ofList (joinLines lines)) = lines.flatMap linesOf ++ [""] := by
  induction lines with
  | nil => rfl
  | cons line lines ih =>
    rw [linesOf, String.toList_ofList] at ih ⊢
    rw [joinLines, List.flatMap_cons, List.append_assoc, List.singleton_append,
      List.splitOn_append_cons_self, List.map_append, List.flatMap_cons, List.append_assoc, ← ih]
    rfl

/-- Lines that do not break are the lines of the text that they make. -/
theorem linesOf_section {lines : List String} (hlines : lines ≠ [])
    (h : ∀ line ∈ lines, IsLine line) :
    linesOf ("\n".intercalate lines ++ "\n") = lines ++ [""] := by
  have htext : "\n".intercalate lines ++ "\n" = String.ofList (joinLines lines) := by
    rw [← toList_section hlines, String.ofList_append, String.ofList_toList]
  have hsplit : lines.flatMap linesOf = lines := by
    rw [List.flatMap_congr fun line hline => linesOf_of_isLine (h line hline),
      List.flatMap_singleton']
  rw [htext, linesOf_joinLines, hsplit]

end GladeGo.Go
