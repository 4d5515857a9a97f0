import GladeGo.Proofs.Document.Tree
import GladeGo.Widget.Object
import Mathlib.Data.List.Basic

/-! # Element trees

What an element is apart from where it stands in a document, and from how its text is cut into text
nodes: `Node.tree`. A well-formed document has no more levels than nodes, so the tree of a node is
made of the trees of its child elements (`tree_eq`). `Node.pruned` is the same tree without some of
the elements in it. -/

namespace GladeGo

/-- An element: its tag, its attributes in order, the texts directly in it, joined, and its child
elements in order. -/
inductive ElementTree where
  | element (tag : String) (attributes : List (String × String)) (text : String)
    (children : List ElementTree)
  deriving Repr

namespace ElementTree

/-- The tag of an element. -/
def tag : ElementTree → String
  | element tag _ _ _ => tag

/-- The attributes of an element. -/
def attributes : ElementTree → List (String × String)
  | element _ attributes _ _ => attributes

/-- The text of an element. -/
def text : ElementTree → String
  | element _ _ text _ => text

/-- The child elements of an element. -/
def children : ElementTree → List ElementTree
  | element _ _ _ children => children

mutual

/-- Trees are compared part by part. -/
def decEq : (a b : ElementTree) → Decidable (a = b)
  | element tag attributes text children, element tag' attributes' text' children' =>
    match decEqAll children children' with
    | isFalse h => isFalse fun heq => h (element.inj heq).2.2.2
    | isTrue h => decidable_of_iff (tag = tag' ∧ attributes = attributes' ∧ text = text')
        (by rw [element.injEq, h]; simp)

/-- Lists of trees are compared one by one. -/
def decEqAll : (as bs : List ElementTree) → Decidable (as = bs)
  | [], [] => isTrue rfl
  | [], _ :: _ => isFalse (nomatch ·)
  | _ :: _, [] => isFalse (nomatch ·)
  | a :: as, b :: bs =>
    match decEq a b with
    | isFalse h => isFalse fun heq => h (List.cons.inj heq).1
    | isTrue h =>
      match decEqAll as bs with
      | isFalse h' => isFalse fun heq => h' (List.cons.inj heq).2
      | isTrue h' => isTrue (by rw [h, h'])

end

instance : DecidableEq ElementTree := decEq

end ElementTree

namespace Node

/-- The tree of an element, down to the given depth below it. -/
def treeTo : Nat → Node → ElementTree
  | 0, node => .element node.tagOrEmpty node.attributes node.text []
  | depth + 1, node =>
    .element node.tagOrEmpty node.attributes node.text (node.elements.map (treeTo depth))

/-- The tree of an element. -/
def tree (node : Node) : ElementTree := treeTo node.document.size node

/-- The tree of an element without the elements in it that are not kept, down to the given depth
below it. -/
def prunedTo (keep : Node → Bool) : Nat → Node → ElementTree
  | 0, node => .element node.tagOrEmpty node.attributes node.text []
  | depth + 1, node => .element node.tagOrEmpty node.attributes node.text
      ((node.elements.filter keep).map (prunedTo keep depth))

/-- The tree of an element without the elements in it that are not kept. -/
def pruned (keep : Node → Bool) (node : Node) : ElementTree :=
  prunedTo keep node.document.size node

variable {keep : Node → Bool} {node child : Node}

theorem mem_elements_iff : child ∈ node.elements ↔ child ∈ node.children ∧ child.isElement = true :=
  List.mem_filter

theorem parent_of_mem_elements (hwf : node.document.WellFormed) (h : child ∈ node.elements) :
    child.parent? = some node :=
  (mem_children_iff hwf).mp (mem_elements_iff.mp h).1

theorem document_of_mem_elements (hwf : node.document.WellFormed) (h : child ∈ node.elements) :
    child.document = node.document :=
  (document_of_parent (parent_of_mem_elements hwf h)).symm

theorem number_lt_of_mem_elements (hwf : node.document.WellFormed) (h : child ∈ node.elements) :
    node.number < child.number := by
  have hchild : child.document.WellFormed := document_of_mem_elements hwf h ▸ hwf
  exact number_lt_of_parent hchild (parent_of_mem_elements hwf h)

theorem number_lt_size_of_mem_elements (hwf : node.document.WellFormed)
    (h : child ∈ node.elements) : child.number < node.document.size := by
  have hsize := number_lt_size (parent_of_mem_elements hwf h)
  rwa [document_of_mem_elements hwf h] at hsize

/-- Below the last node of a document there is nothing. -/
theorem elements_eq_nil (hwf : node.document.WellFormed)
    (h : node.document.size ≤ node.number + 1) : node.elements = [] := by
  refine List.eq_nil_iff_forall_not_mem.mpr fun child hchild => ?_
  have hlow := number_lt_of_mem_elements hwf hchild
  have hhigh := number_lt_size_of_mem_elements hwf hchild
  omega

/-- To look deeper than the document has nodes shows nothing new. -/
theorem prunedTo_eq_prunedTo (hwf : node.document.WellFormed) {depth deeper : Nat}
    (hdepth : node.document.size ≤ node.number + depth + 1)
    (hdeeper : node.document.size ≤ node.number + deeper + 1) :
    prunedTo keep depth node = prunedTo keep deeper node := by
  induction depth generalizing node deeper with
  | zero =>
    cases deeper with
    | zero => rfl
    | succ deeper =>
      rw [prunedTo, prunedTo, elements_eq_nil hwf hdepth, List.filter_nil, List.map_nil]
  | succ depth ih =>
    cases deeper with
    | zero => rw [prunedTo, prunedTo, elements_eq_nil hwf hdeeper, List.filter_nil, List.map_nil]
    | succ deeper =>
      rw [prunedTo, prunedTo]
      congr 1
      refine List.map_congr_left fun child hchild => ?_
      have helement := (List.mem_filter.mp hchild).1
      have hdocument := document_of_mem_elements hwf helement
      have hlt := number_lt_of_mem_elements hwf helement
      exact ih (hdocument ▸ hwf) (by rw [hdocument]; omega) (by rw [hdocument]; omega)

theorem pruned_eq_prunedTo (hwf : node.document.WellFormed) {depth : Nat}
    (hdepth : node.document.size ≤ node.number + depth + 1) :
    node.pruned keep = prunedTo keep depth node :=
  prunedTo_eq_prunedTo hwf (by omega) hdepth

/-- The pruned tree of an element is made of those of the child elements that are kept. -/
theorem pruned_eq (hwf : node.document.WellFormed) : node.pruned keep =
    .element node.tagOrEmpty node.attributes node.text
      ((node.elements.filter keep).map (pruned keep)) := by
  have hdeeper : node.pruned keep = prunedTo keep (node.document.size + 1) node :=
    pruned_eq_prunedTo hwf (by omega)
  rw [hdeeper, prunedTo]
  congr 1
  refine List.map_congr_left fun child hchild => ?_
  have helement := (List.mem_filter.mp hchild).1
  have hdocument := document_of_mem_elements hwf helement
  have hlt := number_lt_of_mem_elements hwf helement
  exact (pruned_eq_prunedTo (hdocument ▸ hwf) (by rw [hdocument]; omega)).symm

theorem treeTo_eq_prunedTo (depth : Nat) (node : Node) :
    treeTo depth node = prunedTo (fun _ => true) depth node := by
  induction depth generalizing node with
  | zero => rfl
  | succ depth ih => rw [treeTo, prunedTo, List.filter_true, funext ih]

/-- In the tree of an element, all elements are kept. -/
theorem tree_eq_pruned (node : Node) : node.tree = node.pruned fun _ => true :=
  treeTo_eq_prunedTo _ node

theorem tree_eq_treeTo (hwf : node.document.WellFormed) {depth : Nat}
    (hdepth : node.document.size ≤ node.number + depth + 1) : node.tree = treeTo depth node := by
  rw [tree_eq_pruned, treeTo_eq_prunedTo, pruned_eq_prunedTo hwf hdepth]

/-- **The tree of an element** is its tag, its attributes, its text, and the trees of its child
elements. -/
theorem tree_eq (hwf : node.document.WellFormed) : node.tree =
    .element node.tagOrEmpty node.attributes node.text (node.elements.map tree) := by
  rw [tree_eq_pruned, pruned_eq hwf, List.filter_true, funext tree_eq_pruned]

end Node

end GladeGo
