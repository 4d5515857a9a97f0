/-! # Documents

A document is a list of nodes in document order, numbered from zero. Node zero is the document
itself; every other node is an element or a text and knows its parent, and every node knows its
children. A `Node` is a document together with the number of one of its nodes. -/

namespace GladeGo

/-- What a node is. -/
inductive NodeKind where
  /-- The document itself, the parent of the root element. -/
  | document
  | element (tag : String) (attributes : List (String × String))
  | text (content : String)
  deriving Repr, DecidableEq

/-- A node as a document stores it. -/
structure NodeEntry where
  kind : NodeKind
  parent : Option Nat
  children : Array Nat
  deriving Repr, DecidableEq

/-- A tree of nodes in document order. -/
structure Document where
  nodes : Array NodeEntry
  deriving Repr, DecidableEq

namespace Document

/-- The document that holds nothing but its own node. -/
def empty : Document := ⟨#[⟨.document, none, #[]⟩]⟩

/-- The number of nodes. -/
def size (document : Document) : Nat := document.nodes.size

/-- Adds a node as the last child of `parent`. Its number is the size that the document had. -/
def append (document : Document) (parent : Nat) (kind : NodeKind) : Document :=
  let number := document.size
  let entry : NodeEntry := ⟨kind, some parent, #[]⟩
  ⟨(document.nodes.push entry).modify parent fun above =>
    { above with children := above.children.push number }⟩

@[simp] theorem size_empty : empty.size = 1 := rfl

@[simp] theorem size_append (document : Document) (parent : Nat) (kind : NodeKind) :
    (document.append parent kind).size = document.size + 1 := by
  simp [append, size]

end Document

/-- One node of a document. -/
structure Node where
  document : Document
  number : Nat
  deriving Repr, DecidableEq

/-- The node of `document` with the given number. -/
def Document.node (document : Document) (number : Nat) : Node := ⟨document, number⟩

/-- The node of the document itself. -/
def Document.root (document : Document) : Node := document.node 0

namespace Node

/-- The stored entry of a node. -/
def entry? (node : Node) : Option NodeEntry := node.document.nodes[node.number]?

/-- The kind of a node. -/
def kind? (node : Node) : Option NodeKind := node.entry?.map NodeEntry.kind

/-- The tag of an element. -/
def tag? (node : Node) : Option String :=
  match node.kind? with
  | some (.element tag _) => some tag
  | _ => none

/-- Whether a node is an element. -/
def isElement (node : Node) : Bool := node.tag?.isSome

/-- The attributes of an element, in the order of its tag. -/
def attributes (node : Node) : List (String × String) :=
  match node.kind? with
  | some (.element _ attributes) => attributes
  | _ => []

/-- The value of an attribute. -/
def attribute? (node : Node) (key : String) : Option String := node.attributes.lookup key

/-- The content of a text node. -/
def content? (node : Node) : Option String :=
  match node.kind? with
  | some (.text content) => some content
  | _ => none

/-- The parent of a node. Only the document's own node has none. -/
def parent? (node : Node) : Option Node :=
  (node.entry?.bind NodeEntry.parent).map node.document.node

/-- The children of a node, texts included, in document order. -/
def children (node : Node) : List Node :=
  match node.entry? with
  | some entry => entry.children.toList.map node.document.node
  | none => []

/-- The elements among the children of a node. -/
def elements (node : Node) : List Node := node.children.filter isElement

/-- The elements among the children of a node that have the given tag. -/
def elementsTagged (node : Node) (tag : String) : List Node :=
  node.children.filter fun child => child.tag? == some tag

/-- The texts among the children of a node, joined. -/
def text (node : Node) : String := String.join (node.children.filterMap content?)

/-- The texts of the child elements with the given tag, joined; `none` if there is no such element,
which tells an absent element from an empty one. -/
def elementText? (node : Node) (tag : String) : Option String :=
  match node.elementsTagged tag with
  | [] => none
  | found => some (String.join (found.map text))

end Node

/-- The outermost element of a document. -/
def Document.rootElement? (document : Document) : Option Node := document.root.elements.head?

end GladeGo
