import GladeGo.Proofs.Document.ElementTree
import Mathlib.Data.List.Basic
import Mathlib.Tactic.SplitIfs

/-! # How documents grow

A document grows inside one open node at a time. `Adds` says what a node has gained between two
stages of a document: text, and the trees of child elements. All other nodes of the earlier stage
are as they were, so the trees of elements that are closed do not change (`tree_eq_of_entries`), and
an element with what it has gained is one more tree in the node around it (`adds_element`). -/

namespace GladeGo

/-! ### Nodes that have not changed -/

section Entries
variable {document later : Document}

theorem childrenOf_eq_of_entry {number : Nat}
    (h : later.nodes[number]? = document.nodes[number]?) :
    later.childrenOf number = document.childrenOf number := by
  rw [Document.childrenOf, Document.childrenOf, h]

theorem kind_eq_of_entry {number : Nat} (h : later.nodes[number]? = document.nodes[number]?) :
    (later.node number).kind? = (document.node number).kind? :=
  congrArg (Option.map NodeEntry.kind) h

theorem tagOrEmpty_eq_of_kind {a b : Node} (h : a.kind? = b.kind?) :
    a.tagOrEmpty = b.tagOrEmpty := by
  rw [Node.tagOrEmpty, Node.tagOrEmpty, Node.tag?, Node.tag?, h]

theorem attributes_eq_of_kind {a b : Node} (h : a.kind? = b.kind?) :
    a.attributes = b.attributes := by
  rw [Node.attributes, Node.attributes, h]

theorem content_eq_of_kind {a b : Node} (h : a.kind? = b.kind?) : a.content? = b.content? := by
  rw [Node.content?, Node.content?, h]

theorem isElement_eq_of_kind {a b : Node} (h : a.kind? = b.kind?) :
    a.isElement = b.isElement := by
  rw [Node.isElement, Node.isElement, Node.tag?, Node.tag?, h]

/-- The text in some nodes that have not changed. -/
theorem content_eq_of_entries {numbers : List Nat}
    (h : ∀ number ∈ numbers, later.nodes[number]? = document.nodes[number]?) :
    (numbers.map later.node).filterMap Node.content? =
      (numbers.map document.node).filterMap Node.content? := by
  rw [List.filterMap_map, List.filterMap_map]
  refine List.filterMap_congr fun number hnumber => ?_
  exact content_eq_of_kind (kind_eq_of_entry (h number hnumber))

/-- What is read off the elements among some nodes that have not changed. -/
theorem map_elements_eq_of_entries {β : Type} {f g : Node → β} {numbers : List Nat}
    (h : ∀ number ∈ numbers, later.nodes[number]? = document.nodes[number]?)
    (hfg : ∀ number ∈ numbers, f (later.node number) = g (document.node number)) :
    ((numbers.map later.node).filter Node.isElement).map f =
      ((numbers.map document.node).filter Node.isElement).map g := by
  induction numbers with
  | nil => rfl
  | cons number numbers ih =>
    have hkind := isElement_eq_of_kind (kind_eq_of_entry (h number List.mem_cons_self))
    have hrest := ih (fun n hn => h n (List.mem_cons_of_mem _ hn))
      fun n hn => hfg n (List.mem_cons_of_mem _ hn)
    rw [List.map_cons, List.map_cons, List.filter_cons, List.filter_cons, hkind]
    split
    · rw [List.map_cons, List.map_cons, hrest, hfg number List.mem_cons_self]
    · exact hrest

theorem text_node (document : Document) (number : Nat) : (document.node number).text =
    String.join (((document.childrenOf number).map document.node).filterMap Node.content?) := by
  rw [Node.text, Node.children_eq]
  rfl

theorem elements_node (document : Document) (number : Nat) : (document.node number).elements =
    ((document.childrenOf number).map document.node).filter Node.isElement := by
  rw [Node.elements, Node.children_eq]
  rfl

theorem text_eq_of_entries (hwf : document.WellFormed) {number : Nat} (hlt : number < document.size)
    (h : ∀ other, number ≤ other → other < document.size →
      later.nodes[other]? = document.nodes[other]?) :
    (later.node number).text = (document.node number).text := by
  rw [text_node, text_node, childrenOf_eq_of_entry (h number (Nat.le_refl _) hlt),
    content_eq_of_entries fun child hchild => ?_]
  obtain ⟨hlow, hhigh⟩ := Document.lt_of_mem_childrenOf hwf hchild
  exact h child (Nat.le_of_lt hlow) hhigh

/-- **The tree of an element does not change** if nothing changes from the element on. -/
theorem tree_eq_of_entries (hwf : document.WellFormed) (hwf' : later.WellFormed) {number : Nat}
    (hlt : number < document.size)
    (h : ∀ other, number ≤ other → other < document.size →
      later.nodes[other]? = document.nodes[other]?) :
    (later.node number).tree = (document.node number).tree := by
  have htreeTo : ∀ depth, Node.treeTo depth (later.node number) =
      Node.treeTo depth (document.node number) := by
    intro depth
    induction depth generalizing number with
    | zero =>
      have hkind := kind_eq_of_entry (h number (Nat.le_refl _) hlt)
      rw [Node.treeTo, Node.treeTo, tagOrEmpty_eq_of_kind hkind, attributes_eq_of_kind hkind,
        text_eq_of_entries hwf hlt h]
    | succ depth ih =>
      have hentry := h number (Nat.le_refl _) hlt
      have hkind := kind_eq_of_entry hentry
      have hchild : ∀ child ∈ document.childrenOf number,
          later.nodes[child]? = document.nodes[child]? := by
        intro child hchild
        obtain ⟨hlow, hhigh⟩ := Document.lt_of_mem_childrenOf hwf hchild
        exact h child (Nat.le_of_lt hlow) hhigh
      have htree : ∀ child ∈ document.childrenOf number,
          Node.treeTo depth (later.node child) = Node.treeTo depth (document.node child) := by
        intro child hchild
        obtain ⟨hlow, hhigh⟩ := Document.lt_of_mem_childrenOf hwf hchild
        exact ih hhigh fun other hle => h other (by omega)
      rw [Node.treeTo, Node.treeTo, tagOrEmpty_eq_of_kind hkind, attributes_eq_of_kind hkind,
        text_eq_of_entries hwf hlt h, elements_node, elements_node, childrenOf_eq_of_entry hentry,
        map_elements_eq_of_entries hchild htree]
  have hleft : (later.node number).tree = Node.treeTo (later.size + document.size) _ :=
    Node.tree_eq_treeTo hwf' (by simp only [Document.node]; omega)
  have hright : (document.node number).tree = Node.treeTo (later.size + document.size) _ :=
    Node.tree_eq_treeTo hwf (by simp only [Document.node]; omega)
  rw [hleft, hright, htreeTo]

end Entries

/-! ### What a node gains -/

/-- The node has gained a text and child elements with the given trees, and no other node of the
document has changed. -/
structure Adds (document later : Document) (number : Nat) (text : String)
    (trees : List ElementTree) : Prop where
  size_le : document.size ≤ later.size
  entry_eq : ∀ other < document.size, other ≠ number →
    later.nodes[other]? = document.nodes[other]?
  kind_eq : (later.node number).kind? = (document.node number).kind?
  text_eq : (later.node number).text = (document.node number).text ++ text
  elements_eq : (later.node number).elements.map Node.tree =
    (document.node number).elements.map Node.tree ++ trees

namespace Adds
variable {document later latest : Document} {number : Nat} {text text' : String}
  {trees trees' : List ElementTree}

theorem refl (document : Document) (number : Nat) : Adds document document number "" [] where
  size_le := Nat.le_refl _
  entry_eq _ _ _ := rfl
  kind_eq := rfl
  text_eq := by rw [String.append_empty]
  elements_eq := by rw [List.append_nil]

theorem trans (h : Adds document later number text trees)
    (h' : Adds later latest number text' trees') :
    Adds document latest number (text ++ text') (trees ++ trees') where
  size_le := Nat.le_trans h.size_le h'.size_le
  entry_eq other hlt hne :=
    (h'.entry_eq other (Nat.lt_of_lt_of_le hlt h.size_le) hne).trans (h.entry_eq other hlt hne)
  kind_eq := h'.kind_eq.trans h.kind_eq
  text_eq := by rw [h'.text_eq, h.text_eq, String.append_assoc]
  elements_eq := by rw [h'.elements_eq, h.elements_eq, List.append_assoc]

/-- A node gains what its new child is: its content if it is a text, and its tree if it is an
element. -/
theorem of_child (hwf : document.WellFormed) (hwf' : later.WellFormed)
    (hsize : document.size ≤ later.size)
    (hentry : ∀ other < document.size, other ≠ number →
      later.nodes[other]? = document.nodes[other]?)
    (hkind : (later.node number).kind? = (document.node number).kind?)
    (hchildren : later.childrenOf number = document.childrenOf number ++ [document.size]) :
    Adds document later number
      (String.join ([later.node document.size].filterMap Node.content?))
      (([later.node document.size].filter Node.isElement).map Node.tree) where
  size_le := hsize
  entry_eq := hentry
  kind_eq := hkind
  text_eq := by
    have hold : ∀ child ∈ document.childrenOf number,
        later.nodes[child]? = document.nodes[child]? := fun child hchild => by
      obtain ⟨hlow, hhigh⟩ := Document.lt_of_mem_childrenOf hwf hchild
      exact hentry child hhigh (Nat.ne_of_gt hlow)
    rw [text_node, text_node, hchildren, List.map_append, List.filterMap_append,
      String.join_append, content_eq_of_entries hold]
    rfl
  elements_eq := by
    have hold : ∀ child ∈ document.childrenOf number, ∀ other, child ≤ other →
        other < document.size → later.nodes[other]? = document.nodes[other]? := by
      intro child hchild other hle hlt
      have hlow := (Document.lt_of_mem_childrenOf hwf hchild).1
      exact hentry other hlt (by omega)
    have htree : ∀ child ∈ document.childrenOf number,
        (later.node child).tree = (document.node child).tree := fun child hchild =>
      tree_eq_of_entries hwf hwf' (Document.lt_of_mem_childrenOf hwf hchild).2 (hold child hchild)
    rw [elements_node, elements_node, hchildren, List.map_append, List.filter_append,
      List.map_append, map_elements_eq_of_entries (fun child hchild => hold child hchild child
        (Nat.le_refl _) (Document.lt_of_mem_childrenOf hwf hchild).2) htree]
    rfl

end Adds

/-! ### What a step adds -/

section Append
variable {document later : Document} {parent number : Nat} {kind : NodeKind}

theorem entry_append (hlt : number < document.size) (hne : number ≠ parent) :
    (document.append parent kind).nodes[number]? = document.nodes[number]? := by
  have hlast : number ≠ document.nodes.size := Nat.ne_of_lt hlt
  simp only [Document.append, Array.getElem?_modify, Array.getElem?_push]
  rw [if_neg (Ne.symm hne), if_neg hlast]

theorem kind_append (hlt : number < document.size) :
    ((document.append parent kind).node number).kind? = (document.node number).kind? := by
  have hlast : number ≠ document.nodes.size := Nat.ne_of_lt hlt
  simp only [Node.kind?, Node.entry?, Document.node, Document.append, Array.getElem?_modify,
    Array.getElem?_push]
  rw [if_neg hlast]
  split_ifs
  · rw [Option.map_map]
    rfl
  · rfl

theorem kind_append_last (hparent : parent < document.size) :
    ((document.append parent kind).node document.size).kind? = some kind := by
  have hne : parent ≠ document.nodes.size := Nat.ne_of_lt hparent
  simp only [Node.kind?, Node.entry?, Document.node, Document.size, Document.append,
    Array.getElem?_modify, Array.getElem?_push]
  rw [if_neg hne, if_pos trivial]
  rfl

theorem childrenOf_append_last (hparent : parent < document.size) :
    (document.append parent kind).childrenOf document.size = [] := by
  have hnone : document.nodes[document.size]? = none := Array.getElem?_eq_none (Nat.le_refl _)
  rw [Document.childrenOf_append kind hparent, if_neg (Nat.ne_of_gt hparent), List.append_nil,
    Document.childrenOf, hnone]

/-- The node that is added last is empty. -/
theorem text_append_last (hparent : parent < document.size) :
    ((document.append parent kind).node document.size).text = "" := by
  rw [text_node, childrenOf_append_last hparent]
  rfl

theorem elements_append_last (hparent : parent < document.size) :
    ((document.append parent kind).node document.size).elements = [] := by
  rw [elements_node, childrenOf_append_last hparent]
  rfl

variable (hwf : document.WellFormed) (hopen : document.IsOpen parent)
include hwf hopen

/-- A text is what its parent gains. -/
theorem adds_text (content : String) :
    Adds document (document.append parent (.text content)) parent content [] := by
  have hparent := hopen.1
  have hadds : Adds document (document.append parent (.text content)) parent _ _ :=
    Adds.of_child hwf (hwf.append _ hopen) (by rw [Document.size_append]; omega)
      (fun _ => entry_append) (kind_append hparent)
      (by rw [Document.childrenOf_append _ hparent, if_pos rfl])
  have hkind := @kind_append_last document parent (.text content) hparent
  have hcontent : ((document.append parent (.text content)).node document.size).content? =
      some content := by
    rw [Node.content?, hkind]
  have helement : ((document.append parent (.text content)).node document.size).isElement =
      false := by
    rw [Node.isElement, Node.tag?, hkind]
    rfl
  rw [List.filterMap_cons_some hcontent, List.filterMap_nil, String.join_cons, String.join_nil,
    String.append_empty, List.filter_cons_of_neg (by simp [helement])] at hadds
  exact hadds

/-- **An element, with all that it has gained since it was opened**, is one more tree in the node
around it. -/
theorem adds_element {tag : String} {attributes : List (String × String)} {text : String}
    {trees : List ElementTree} (hwf' : later.WellFormed)
    (h : Adds (document.append parent (.element tag attributes)) later document.size text trees) :
    Adds document later parent "" [.element tag attributes text trees] := by
  have hparent := hopen.1
  have hsize := h.size_le
  have hold : ∀ other < document.size, later.nodes[other]? =
      (document.append parent (.element tag attributes)).nodes[other]? := by
    intro other hlt
    exact h.entry_eq other (by rw [Document.size_append]; omega) (Nat.ne_of_lt hlt)
  rw [Document.size_append] at hsize
  have hentry : ∀ other < document.size, other ≠ parent →
      later.nodes[other]? = document.nodes[other]? := by
    intro other hlt hne
    rw [hold other hlt, entry_append hlt hne]
  have hparentKind : (later.node parent).kind? = (document.node parent).kind? := by
    rw [kind_eq_of_entry (hold parent hparent), kind_append hparent]
  have hchildren : later.childrenOf parent = document.childrenOf parent ++ [document.size] := by
    rw [childrenOf_eq_of_entry (hold parent hparent), Document.childrenOf_append _ hparent,
      if_pos rfl]
  have hadds := Adds.of_child hwf hwf' (by omega) hentry hparentKind hchildren
  have hkind : (later.node document.size).kind? = some (.element tag attributes) :=
    h.kind_eq.trans (kind_append_last hparent)
  have hcontent : (later.node document.size).content? = none := by rw [Node.content?, hkind]
  have htag : (later.node document.size).tag? = some tag := by rw [Node.tag?, hkind]
  have helement : (later.node document.size).isElement = true := by rw [Node.isElement, htag]; rfl
  have htree : (later.node document.size).tree = .element tag attributes text trees := by
    rw [Node.tree_eq hwf', h.text_eq, h.elements_eq, text_append_last hparent,
      elements_append_last hparent, String.empty_append, Node.tagOrEmpty, htag, Node.attributes,
      hkind]
    rfl
  rw [List.filterMap_cons_none hcontent, List.filterMap_nil, String.join_nil,
    List.filter_cons_of_pos helement, List.filter_nil, List.map_cons, List.map_nil, htree] at hadds
  exact hadds

end Append

end GladeGo
