import GladeGo.Proofs.Document.Arena
import GladeGo.Widget.Object
import Mathlib.Data.List.Pairwise

/-! # The tree of a well-formed document

Children and parents of nodes, in document order. The siblings of a well-formed document cut it into
pieces: what is inside a node comes before the siblings that follow it (`number_lt_of_sibling`). -/

namespace GladeGo.Node

variable {node child above : Node}

@[ext] theorem ext {a b : Node} (hdocument : a.document = b.document)
    (hnumber : a.number = b.number) : a = b := by
  cases a; cases b; simp_all

/-! ### Parents and children -/

theorem children_eq (node : Node) :
    node.children = (node.document.childrenOf node.number).map node.document.node := by
  unfold children Document.childrenOf entry?
  cases node.document.nodes[node.number]? <;> rfl

theorem parent?_eq_some_iff : node.parent? = some above ↔
    above.document = node.document ∧ node.document.parentOf node.number = some above.number := by
  change Option.map _ (node.document.parentOf node.number) = _ ↔ _
  rw [Option.map_eq_some_iff]
  constructor
  · rintro ⟨number, hnumber, rfl⟩; exact ⟨rfl, hnumber⟩
  · rintro ⟨hdocument, hnumber⟩
    exact ⟨above.number, hnumber, Node.ext hdocument.symm rfl⟩

theorem document_of_parent (h : node.parent? = some above) : above.document = node.document :=
  (parent?_eq_some_iff.mp h).1

theorem number_lt_size (h : node.parent? = some above) : node.number < node.document.size :=
  Document.lt_size_of_parentOf (parent?_eq_some_iff.mp h).2

theorem number_lt_of_parent (hwf : node.document.WellFormed) (h : node.parent? = some above) :
    above.number < node.number :=
  hwf.parent_lt _ _ (parent?_eq_some_iff.mp h).2

theorem mem_children_iff (hwf : node.document.WellFormed) :
    child ∈ node.children ↔ child.parent? = some node := by
  simp only [children_eq, List.mem_map, hwf.mem_childrenOf, parent?_eq_some_iff]
  constructor
  · rintro ⟨number, hnumber, rfl⟩; exact ⟨rfl, hnumber⟩
  · rintro ⟨hdocument, hnumber⟩
    exact ⟨child.number, hdocument ▸ hnumber, Node.ext hdocument rfl⟩

theorem children_ordered (hwf : node.document.WellFormed) :
    node.children.Pairwise fun a b => a.number < b.number := by
  rw [children_eq, List.pairwise_map]
  exact hwf.ordered node.number

theorem mem_objects_iff (hwf : node.document.WellFormed) :
    child ∈ node.objects ↔ child.parent? = some node ∧ child.tag? = some "object" := by
  simp [objects, elementsTagged, mem_children_iff hwf]

theorem parent_of_mem_objects (hwf : node.document.WellFormed) (h : child ∈ node.objects) :
    child.parent? = some node :=
  ((mem_objects_iff hwf).mp h).1

theorem document_of_mem_objects (hwf : node.document.WellFormed) (h : child ∈ node.objects) :
    child.document = node.document :=
  (document_of_parent (parent_of_mem_objects hwf h)).symm

theorem objects_ordered (hwf : node.document.WellFormed) :
    node.objects.Pairwise fun a b => a.number < b.number :=
  (children_ordered hwf).filter _

theorem nodup_objects (hwf : node.document.WellFormed) : node.objects.Nodup := by
  refine (objects_ordered hwf).imp fun hlt heq => ?_
  exact Nat.lt_irrefl _ (heq ▸ hlt)

/-- What is inside a node comes before the siblings that follow the node. -/
theorem number_lt_of_sibling (hwf : node.document.WellFormed) {first second : Node}
    (hfirst : first.parent? = some node) (hsecond : second.parent? = some node)
    (hlt : first.number < second.number) (hchild : child.parent? = some first) :
    child.number < second.number := by
  obtain ⟨hdocument₁, hnumber₁⟩ := parent?_eq_some_iff.mp hfirst
  obtain ⟨hdocument₂, hnumber₂⟩ := parent?_eq_some_iff.mp hsecond
  obtain ⟨hdocument, hnumber⟩ := parent?_eq_some_iff.mp hchild
  rw [← hdocument₁] at hnumber₁
  rw [← hdocument₂] at hnumber₂
  rw [← hdocument, ← hdocument₁] at hnumber
  have hnode := hwf.parent_lt _ _ hnumber₁
  rcases Nat.lt_trichotomy child.number second.number with hlow | heq | hhigh
  · exact hlow
  · rw [heq, hnumber₂] at hnumber
    have := Option.some.inj hnumber
    omega
  · obtain ⟨parent, hparent, hle⟩ := hwf.nested _ _ hnumber _ hlt hhigh
    rw [hnumber₂] at hparent
    have := Option.some.inj hparent
    omega

/-- The objects of siblings in document order are in document order. -/
theorem objects_of_siblings_ordered (hwf : node.document.WellFormed) {items : List Node}
    (hitems : ∀ item ∈ items, item.parent? = some node)
    (hordered : items.Pairwise fun a b => a.number < b.number) :
    (items.flatMap objects).Pairwise fun a b => a.number < b.number := by
  have hdocument : ∀ item ∈ items, item.document.WellFormed := fun item hitem =>
    document_of_parent (hitems item hitem) ▸ hwf
  refine List.pairwise_flatMap.mpr ⟨fun item hitem => objects_ordered (hdocument item hitem), ?_⟩
  refine hordered.imp_of_mem fun {a b} ha hb hlt x hx y hy => ?_
  have hxa := parent_of_mem_objects (hdocument a ha) hx
  have hyb := parent_of_mem_objects (hdocument b hb) hy
  have hywf : y.document.WellFormed := document_of_mem_objects (hdocument b hb) hy ▸ hdocument b hb
  have hxb := number_lt_of_sibling hwf (hitems a ha) (hitems b hb) hlt hxa
  exact Nat.lt_trans hxb (number_lt_of_parent hywf hyb)

/-! ### Ancestors -/

/-- The nodes around a node, the nearest first. -/
def ancestors (node : Node) : List Node :=
  match node.parent? with
  | none => []
  | some above => if above.number < node.number then above :: above.ancestors else []
termination_by node.number

/-- The nodes around a node that are inside `window`, the nearest first. -/
def ancestorsWithin (window node : Node) : List Node :=
  node.ancestors.takeWhile fun above => above.number != window.number

theorem ancestors_of_parent (hwf : node.document.WellFormed) (h : node.parent? = some above) :
    node.ancestors = above :: above.ancestors := by
  rw [ancestors, h]
  exact if_pos (number_lt_of_parent hwf h)

theorem ancestorsWithin_window (hwf : node.document.WellFormed) (h : node.parent? = some above) :
    ancestorsWithin above node = [] := by
  simp [ancestorsWithin, ancestors_of_parent hwf h]

theorem ancestorsWithin_of_parent (hwf : node.document.WellFormed) (h : node.parent? = some above)
    {window : Node} (hwindow : above.number ≠ window.number) :
    ancestorsWithin window node = above :: ancestorsWithin window above := by
  simp [ancestorsWithin, ancestors_of_parent hwf h, hwindow]

end GladeGo.Node
