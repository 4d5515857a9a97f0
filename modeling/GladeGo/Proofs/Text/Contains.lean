import GladeGo.Text.Blank
import GladeGo.Text.Contains
import Mathlib.Data.List.Infix
import Mathlib.Data.List.TakeWhile

/-! # Words in texts

Where a word stands in a text that is put together of pieces. A word that has no character of a
separator in it stands in one of the pieces between the separators (`infix_intercalate_iff`), and it
is not lost with the blanks around a text (`infix_trimChars_iff`). -/

namespace GladeGo.Text

theorem containsChars_iff {part cs : List Char} : containsChars part cs = true ↔ part <:+: cs := by
  induction cs with
  | nil => simp [containsChars]
  | cons c cs ih =>
    rw [containsChars, Bool.or_eq_true, ih, List.infix_cons_iff, List.isPrefixOf_iff_prefix]

theorem contains_iff {s part : String} : contains s part = true ↔ part.toList <:+: s.toList :=
  containsChars_iff

section Word
variable {word : List Char} (hword : word ≠ [])
include hword

/-- What begins with a character that is not in a word does not begin with the word. -/
theorem not_prefix_cons {bs : List Char} {c : Char} (hc : c ∉ word) : ¬word <+: c :: bs := by
  intro h
  cases word with
  | nil => exact hword rfl
  | cons first rest =>
    obtain rfl := (List.cons_prefix_cons.mp h).1
    exact hc List.mem_cons_self

theorem infix_cons_iff_of_not_mem {bs : List Char} {c : Char} (hc : c ∉ word) :
    word <:+: c :: bs ↔ word <:+: bs := by
  rw [List.infix_cons_iff, or_iff_right (not_prefix_cons hword hc)]

/-- **A word stands on one side** of a character that is not in it. -/
theorem infix_append_cons_iff {as bs : List Char} {c : Char} (hc : c ∉ word) :
    word <:+: as ++ c :: bs ↔ word <:+: as ∨ word <:+: bs := by
  rw [List.infix_append_iff_ne_nil, infix_cons_iff_of_not_mem hword hc]
  constructor
  · rintro (h | h | ⟨front, back, -, hback, rfl, -, hprefix⟩)
    · exact Or.inl h
    · exact Or.inr h
    · have hnot : c ∉ back := fun hmem => hc (List.mem_append_right _ hmem)
      exact absurd hprefix (not_prefix_cons hback hnot)
  · rintro (h | h)
    · exact Or.inl h
    · exact Or.inr (Or.inl h)

/-- Characters in front of a text that are not in a word have no part in it. -/
theorem infix_append_left_iff {front bs : List Char} (hfront : ∀ c ∈ front, c ∉ word) :
    word <:+: front ++ bs ↔ word <:+: bs := by
  induction front with
  | nil => rfl
  | cons c front ih =>
    obtain ⟨hc, hrest⟩ := List.forall_mem_cons.mp hfront
    rw [List.cons_append, infix_cons_iff_of_not_mem hword hc, ih hrest]

/-- **A word stands in one of the pieces** between separators that have no character of it. -/
theorem infix_intercalate_iff {separator : List Char} (hne : separator ≠ [])
    (hseparator : ∀ c ∈ separator, c ∉ word) (pieces : List (List Char)) :
    word <:+: separator.intercalate pieces ↔ ∃ piece ∈ pieces, word <:+: piece := by
  have happend : ∀ cs ds : List Char,
      word <:+: cs ++ (separator ++ ds) ↔ word <:+: cs ∨ word <:+: ds := by
    intro cs ds
    cases separator with
    | nil => exact absurd rfl hne
    | cons c separator =>
      obtain ⟨hc, hrest⟩ := List.forall_mem_cons.mp hseparator
      rw [List.cons_append, infix_append_cons_iff hword hc, infix_append_left_iff hword hrest]
  induction pieces with
  | nil => simp [hword]
  | cons piece pieces ih =>
    cases pieces with
    | nil => simp
    | cons other pieces =>
      have hrest : word <:+: piece ∨ word <:+: separator.intercalate (other :: pieces) ↔
          word <:+: piece ∨ ∃ piece ∈ other :: pieces, word <:+: piece := or_congr_right ih
      rw [List.intercalate_cons_cons, List.append_assoc, happend, hrest]
      simp

theorem infix_dropWhile_iff {p : Char → Bool} (hp : ∀ c ∈ word, p c = false) (cs : List Char) :
    word <:+: cs.dropWhile p ↔ word <:+: cs := by
  have hfront : ∀ c ∈ cs.takeWhile p, c ∉ word := by
    intro c hc hmem
    have hblank : p c = true := List.mem_takeWhile_imp hc
    rw [hp c hmem] at hblank
    cases hblank
  conv => rhs; rw [← List.takeWhile_append_dropWhile (p := p) (l := cs)]
  exact (infix_append_left_iff hword hfront).symm

/-- **No word is lost with blanks** that are not in it. -/
theorem infix_trimChars_iff (hblank : ∀ c ∈ word, isBlank c = false) (cs : List Char) :
    word <:+: trimChars cs ↔ word <:+: cs := by
  have hreverse : word.reverse ≠ [] := by simpa using hword
  have hblank' : ∀ c ∈ word.reverse, isBlank c = false := by simpa using hblank
  rw [trimChars, ← List.reverse_infix, List.reverse_reverse,
    infix_dropWhile_iff hreverse hblank', List.reverse_infix, infix_dropWhile_iff hword hblank]

end Word

end GladeGo.Text
