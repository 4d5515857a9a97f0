import GladeGo.Proofs.Document.ElementTree
import GladeGo.Proofs.Run

/-! # Elements that are alike

Two elements are alike if they have the same tree. What is asked of an element is then the same of
both: its attributes, the texts of its children, the elements inside it. More generally, an element
prunes to another one if the other has its tree without some of the elements in it. -/

namespace GladeGo.Node

/-- Elements with the same tree, each in a well-formed document. -/
structure Alike (a b : Node) : Prop where
  left : a.document.WellFormed
  right : b.document.WellFormed
  tree_eq : a.tree = b.tree

/-- The second element has the tree of the first without what is not kept, each in a well-formed
document. -/
structure PrunesTo (keep : Node → Bool) (a b : Node) : Prop where
  left : a.document.WellFormed
  right : b.document.WellFormed
  tree_eq : a.pruned keep = b.tree

/-- An element is its tag and its attributes. -/
theorem kind_of_tag {node : Node} {tag : String} (h : node.tag? = some tag) :
    node.kind? = some (.element tag node.attributes) := by
  unfold attributes
  unfold tag? at h
  split at h
  · rename_i hkind
    rw [hkind, Option.some.inj h]
  · cases h

/-- The child elements with a tag, found by their tag alone. -/
theorem elementsTagged_eq (node : Node) (tag : String) : node.elementsTagged tag =
    node.elements.filter fun child => child.tagOrEmpty == tag := by
  rw [elements, List.filter_filter, elementsTagged]
  refine List.filter_congr fun child _ => ?_
  rw [tagOrEmpty, isElement]
  cases child.tag? <;> simp

namespace PrunesTo
variable {keep : Node → Bool} {a b : Node} (h : PrunesTo keep a b)
include h

theorem element_eq :
    ElementTree.element a.tagOrEmpty a.attributes a.text
      ((a.elements.filter keep).map (pruned keep)) =
      .element b.tagOrEmpty b.attributes b.text (b.elements.map tree) := by
  rw [← Node.tree_eq h.right, ← Node.pruned_eq h.left]
  exact h.tree_eq

theorem tagOrEmpty : a.tagOrEmpty = b.tagOrEmpty := congrArg ElementTree.tag h.element_eq

theorem attributes : a.attributes = b.attributes := congrArg ElementTree.attributes h.element_eq

theorem text : a.text = b.text := congrArg ElementTree.text h.element_eq

theorem elements : List.Forall₂ (PrunesTo keep) (a.elements.filter keep) b.elements := by
  have htrees := map_eq_map_iff.mp (congrArg ElementTree.children h.element_eq)
  refine (forall₂_and_mem htrees).imp fun x y ⟨htree, hx, hy⟩ => ⟨?_, ?_, htree⟩
  · exact document_of_mem_elements h.left (List.mem_filter.mp hx).1 ▸ h.left
  · exact document_of_mem_elements h.right hy ▸ h.right

theorem elementsTagged (tag : String) :
    List.Forall₂ (PrunesTo keep) ((a.elementsTagged tag).filter keep) (b.elementsTagged tag) := by
  rw [elementsTagged_eq, elementsTagged_eq, List.filter_comm]
  refine List.rel_filter (fun x y hxy => ?_) h.elements
  dsimp only
  rw [hxy.tagOrEmpty]

end PrunesTo

namespace Alike
variable {a b : Node} (h : Alike a b)

theorem prunesTo_iff : PrunesTo (fun _ => true) a b ↔ Alike a b := by
  constructor
  · exact fun h => ⟨h.left, h.right, a.tree_eq_pruned.trans h.tree_eq⟩
  · exact fun h => ⟨h.left, h.right, a.tree_eq_pruned.symm.trans h.tree_eq⟩

include h

theorem tagOrEmpty : a.tagOrEmpty = b.tagOrEmpty := (prunesTo_iff.mpr h).tagOrEmpty

theorem attributes : a.attributes = b.attributes := (prunesTo_iff.mpr h).attributes

theorem text : a.text = b.text := (prunesTo_iff.mpr h).text

theorem elementsTagged (tag : String) :
    List.Forall₂ Alike (a.elementsTagged tag) (b.elementsTagged tag) := by
  have htagged := (prunesTo_iff.mpr h).elementsTagged tag
  rw [List.filter_true] at htagged
  exact htagged.imp fun _ _ => prunesTo_iff.mp

theorem objects : List.Forall₂ Alike a.objects b.objects := h.elementsTagged "object"

end Alike

end GladeGo.Node
