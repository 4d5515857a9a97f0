import GladeGo.Document.Basic
import Mathlib.Tactic.ByContra
import Mathlib.Tactic.SplitIfs

/-! # The arena of a document

`parentOf` and `childrenOf` are the two ways in which a document stores its tree. In a *well-formed*
document they say the same, parents come before their children, and no node stands between a node
and its parent unless it is inside that parent: the numbers are the document order.

`append` keeps a document well formed if the node it adds to is still *open*: all that follows it so
far is inside it. -/

namespace GladeGo.Document

/-- The number of the parent of a node. -/
def parentOf (document : Document) (number : Nat) : Option Nat :=
  document.nodes[number]?.bind NodeEntry.parent

/-- The numbers of the children of a node. -/
def childrenOf (document : Document) (number : Nat) : List Nat :=
  match document.nodes[number]? with
  | some entry => entry.children.toList
  | none => []

/-- Parents and children agree, and the numbers are the document order. -/
structure WellFormed (document : Document) : Prop where
  mem_childrenOf : ∀ above number,
    number ∈ document.childrenOf above ↔ document.parentOf number = some above
  parent_lt : ∀ number above, document.parentOf number = some above → above < number
  ordered : ∀ above, (document.childrenOf above).Pairwise (· < ·)
  /-- What stands between a node and its parent is inside that parent. -/
  nested : ∀ number above, document.parentOf number = some above →
    ∀ between, above < between → between < number →
      ∃ parent, document.parentOf between = some parent ∧ above ≤ parent

/-- All nodes after the given one stand inside it. -/
def IsOpen (document : Document) (number : Nat) : Prop :=
  number < document.size ∧ ∀ later, number < later → later < document.size →
    ∃ parent, document.parentOf later = some parent ∧ number ≤ parent

theorem lt_size_of_parentOf {document : Document} {number above : Nat}
    (h : document.parentOf number = some above) : number < document.size := by
  by_contra hlt
  simp [parentOf, Array.getElem?_eq_none (Nat.le_of_not_lt hlt)] at h

theorem lt_of_mem_childrenOf {document : Document} (hwf : document.WellFormed) {number child : Nat}
    (h : child ∈ document.childrenOf number) : number < child ∧ child < document.size := by
  have hparent := (hwf.mem_childrenOf number child).mp h
  exact ⟨hwf.parent_lt _ _ hparent, lt_size_of_parentOf hparent⟩

/-! ### The empty document -/

theorem parentOf_empty (number : Nat) : empty.parentOf number = none := by
  rcases number with _ | number <;> simp [parentOf, empty]

theorem childrenOf_empty (number : Nat) : empty.childrenOf number = [] := by
  rcases number with _ | number <;> simp [childrenOf, empty]

theorem wellFormed_empty : empty.WellFormed where
  mem_childrenOf above number := by simp [childrenOf_empty, parentOf_empty]
  parent_lt number above h := by simp [parentOf_empty] at h
  ordered above := by simp [childrenOf_empty]
  nested number above h := by simp [parentOf_empty] at h

theorem isOpen_empty : empty.IsOpen 0 := ⟨by simp, fun later hpos hlt => by simp at hlt; omega⟩

/-! ### Adding a node -/

section Append
variable {document : Document} {parent : Nat} (kind : NodeKind)

theorem parentOf_append (hparent : parent < document.size) (number : Nat) :
    (document.append parent kind).parentOf number =
      if number = document.size then some parent else document.parentOf number := by
  change parent < document.nodes.size at hparent
  change _ = if number = document.nodes.size then some parent else document.parentOf number
  simp only [parentOf, append, Array.getElem?_modify, Array.getElem?_push]
  by_cases hlast : number = document.nodes.size
  · rw [if_neg (by omega), if_pos hlast, if_pos hlast]; rfl
  · rw [if_neg hlast, if_neg hlast]
    split_ifs
    · cases document.nodes[number]? <;> rfl
    · rfl

theorem childrenOf_append (hparent : parent < document.size) (number : Nat) :
    (document.append parent kind).childrenOf number =
      document.childrenOf number ++ if number = parent then [document.size] else [] := by
  change parent < document.nodes.size at hparent
  simp only [childrenOf, append, Array.getElem?_modify, Array.getElem?_push]
  by_cases hnumber : number = parent
  · subst hnumber
    rw [if_pos rfl, if_pos rfl, if_neg (by omega), Array.getElem?_eq_getElem hparent]
    simp
  · rw [if_neg (Ne.symm hnumber), if_neg hnumber]
    split_ifs with hlast <;> simp [hlast]

theorem IsOpen.append (hparent : parent < document.size) {number : Nat}
    (hnumber : document.IsOpen number) (hle : number ≤ parent) :
    (document.append parent kind).IsOpen number := by
  obtain ⟨hlt, hinside⟩ := hnumber
  refine ⟨by rw [size_append]; omega, fun later hlater hsize => ?_⟩
  rw [parentOf_append kind hparent]
  rw [size_append] at hsize
  split_ifs with h
  · exact ⟨parent, rfl, hle⟩
  · exact hinside later hlater (by omega)

/-- The node that is added last is open. -/
theorem isOpen_last (document : Document) (parent : Nat) :
    (document.append parent kind).IsOpen document.size :=
  ⟨by rw [size_append]; omega, fun later h1 h2 => by rw [size_append] at h2; omega⟩

theorem WellFormed.append (h : document.WellFormed) (hopen : document.IsOpen parent) :
    (document.append parent kind).WellFormed := by
  have hparent := hopen.1
  refine ⟨fun above number => ?_, fun number above => ?_, fun above => ?_, fun number above => ?_⟩
  · have hnone : document.parentOf document.size = none := by
      by_contra hne
      obtain ⟨q, hq⟩ := Option.ne_none_iff_exists'.mp hne
      exact Nat.lt_irrefl _ (lt_size_of_parentOf hq)
    rw [parentOf_append kind hparent, childrenOf_append kind hparent, List.mem_append,
      h.mem_childrenOf]
    by_cases hnumber : number = document.size
    · subst hnumber; rw [hnone]; split_ifs <;> simp_all [eq_comm]
    · split_ifs <;> simp [hnumber]
  · rw [parentOf_append kind hparent]
    split_ifs with hnumber
    · rintro ⟨rfl⟩; omega
    · exact h.parent_lt number above
  · rw [childrenOf_append kind hparent]
    refine List.pairwise_append.mpr ⟨h.ordered above, by split_ifs <;> simp, fun a ha b hb => ?_⟩
    have hlt := lt_size_of_parentOf ((h.mem_childrenOf above a).mp ha)
    split_ifs at hb <;> simp_all
  · simp only [parentOf_append kind hparent]
    intro hnumber between hlow hhigh
    split_ifs at hnumber with hlast
    · obtain rfl : parent = above := by simpa using hnumber
      rw [if_neg (by omega)]
      exact hopen.2 between hlow (by omega)
    · have := lt_size_of_parentOf hnumber
      rw [if_neg (by omega)]
      exact h.nested number above hnumber between hlow hhigh

end Append

end GladeGo.Document
