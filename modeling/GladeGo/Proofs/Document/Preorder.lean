import GladeGo.Proofs.Document.Arena
import Mathlib.Data.List.Sort

/-! # Document order

A depth-first walk takes a node and then, one child after the other, all that is inside its children
(`preorder`). In a well-formed document what is inside a node stands before the siblings that follow
it, so each walk comes to greater and greater numbers (`preorder_pairwise`). If every node has a
parent, the walk from the document itself takes the nodes in the order in which they are stored
(`preorder_zero`). -/

namespace GladeGo.Document

/-- The numbers of the nodes that a depth-first walk from a node takes, in that order. -/
def preorder (document : Document) (number : Nat) : List Nat :=
  number :: (document.childrenOf number).flatMap fun child =>
    if number < child ∧ child < document.size then document.preorder child else []
termination_by document.size - number
decreasing_by omega

section WellFormed
variable {document : Document} {number above : Nat} (hwf : document.WellFormed)
include hwf

/-- The walk from a node takes the node and then makes the walks from its children. -/
theorem preorder_eq (number : Nat) : document.preorder number =
    number :: (document.childrenOf number).flatMap document.preorder := by
  rw [preorder]
  congr 1
  refine List.flatMap_congr fun child hchild => ?_
  exact if_pos (lt_of_mem_childrenOf hwf hchild)

/-- What holds of a node if it holds of its children holds of all nodes. -/
theorem induction_on_children {P : Nat → Prop}
    (step : ∀ number, (∀ child ∈ document.childrenOf number, P child) → P number)
    (number : Nat) : P number := by
  induction hsize : document.size - number using Nat.strongRecOn generalizing number with
  | ind rest ih =>
    refine step number fun child hchild => ?_
    obtain ⟨hlow, hhigh⟩ := lt_of_mem_childrenOf hwf hchild
    exact ih (document.size - child) (by omega) child rfl

theorem mem_preorder_iff {other : Nat} : other ∈ document.preorder number ↔
    other = number ∨ ∃ child ∈ document.childrenOf number, other ∈ document.preorder child := by
  rw [preorder_eq hwf, List.mem_cons, List.mem_flatMap]

theorem le_of_mem_preorder {other : Nat} (h : other ∈ document.preorder number) :
    number ≤ other := by
  induction number using induction_on_children hwf with
  | step number ih =>
    rcases (mem_preorder_iff hwf).mp h with rfl | ⟨child, hchild, hother⟩
    · exact Nat.le_refl _
    · have hlow := (lt_of_mem_childrenOf hwf hchild).1
      have := ih child hchild hother
      omega

theorem lt_size_of_mem_preorder {other : Nat} (hnumber : number < document.size)
    (h : other ∈ document.preorder number) : other < document.size := by
  induction number using induction_on_children hwf with
  | step number ih =>
    rcases (mem_preorder_iff hwf).mp h with rfl | ⟨child, hchild, hother⟩
    · exact hnumber
    · exact ih child hchild (lt_of_mem_childrenOf hwf hchild).2 hother

/-- A child of a taken node is taken. -/
theorem mem_preorder_of_parentOf {other child : Nat} (h : other ∈ document.preorder number)
    (hchild : document.parentOf child = some other) : child ∈ document.preorder number := by
  induction number using induction_on_children hwf with
  | step number ih =>
    rcases (mem_preorder_iff hwf).mp h with rfl | ⟨next, hnext, hother⟩
    · refine (mem_preorder_iff hwf).mpr (Or.inr ⟨child, ?_, ?_⟩)
      · exact (hwf.mem_childrenOf other child).mpr hchild
      · exact (mem_preorder_iff hwf).mpr (Or.inl rfl)
    · exact (mem_preorder_iff hwf).mpr (Or.inr ⟨next, hnext, ih next hnext hother⟩)

/-- **What is inside a node stands before what follows the node.** -/
theorem lt_of_mem_preorder {later other : Nat} (hlater : document.parentOf later = some above)
    (habove : above < number) (hlt : number < later) (h : other ∈ document.preorder number) :
    other < later := by
  induction number using induction_on_children hwf with
  | step number ih =>
    rcases (mem_preorder_iff hwf).mp h with rfl | ⟨child, hchild, hother⟩
    · exact hlt
    · have hparent := (hwf.mem_childrenOf number child).mp hchild
      have hlow := (lt_of_mem_childrenOf hwf hchild).1
      refine ih child hchild (by omega) ?_ hother
      -- Otherwise `later` would be `child`, or stand between `number` and `child`.
      rcases Nat.lt_trichotomy child later with hbefore | rfl | hafter
      · exact hbefore
      · rw [hparent] at hlater
        have := Option.some.inj hlater
        omega
      · obtain ⟨parent, hbetween, hle⟩ := hwf.nested _ _ hparent later hlt hafter
        rw [hlater] at hbetween
        have := Option.some.inj hbetween
        omega

theorem preorder_pairwise (number : Nat) : (document.preorder number).Pairwise (· < ·) := by
  induction number using induction_on_children hwf with
  | step number ih =>
    rw [preorder_eq hwf, List.pairwise_cons]
    refine ⟨fun other hother => ?_, List.pairwise_flatMap.mpr ⟨ih, ?_⟩⟩
    · obtain ⟨child, hchild, hother⟩ := List.mem_flatMap.mp hother
      have hlow := (lt_of_mem_childrenOf hwf hchild).1
      have := le_of_mem_preorder hwf hother
      omega
    · refine (hwf.ordered number).imp_of_mem fun {first second} hfirst hsecond hlt => ?_
      intro a ha b hb
      have hparent := (hwf.mem_childrenOf number second).mp hsecond
      have hbefore := lt_of_mem_preorder hwf hparent (lt_of_mem_childrenOf hwf hfirst).1 hlt ha
      exact Nat.lt_of_lt_of_le hbefore (le_of_mem_preorder hwf hb)

/-- **The walk from the document itself takes all nodes, in the order of their numbers**, if every
other node has a parent. -/
theorem preorder_zero (hsize : 0 < document.size)
    (hparent : ∀ number, 0 < number → number < document.size →
      ∃ above, document.parentOf number = some above) :
    document.preorder 0 = List.range document.size := by
  have hmem : ∀ number < document.size, number ∈ document.preorder 0 := by
    intro number
    induction number using Nat.strongRecOn with
    | ind number ih =>
      intro hnumber
      rcases Nat.eq_zero_or_pos number with rfl | hpos
      · exact (mem_preorder_iff hwf).mpr (Or.inl rfl)
      · obtain ⟨above, habove⟩ := hparent number hpos hnumber
        have hlt := hwf.parent_lt _ _ habove
        exact mem_preorder_of_parentOf hwf (ih above hlt (by omega)) habove
  refine (preorder_pairwise hwf 0).eq_of_mem_iff List.pairwise_lt_range fun number => ?_
  rw [List.mem_range]
  exact ⟨lt_size_of_mem_preorder hwf hsize, hmem number⟩

end WellFormed

end GladeGo.Document
