import GladeGo.Proofs.Document.Growth
import GladeGo.Proofs.Document.Parse
import GladeGo.Proofs.Document.Preorder
import GladeGo.Proofs.Markup.Tag
import GladeGo.Proofs.Run

/-! # The shape of a parsed document

Being well formed says how the numbers of a document fit together. The *shape* of a document says
which nodes stand where: below the document itself there is at most the root element, nothing is
below a text, and an element has no two attributes with one key. Every event keeps the shape of the
document that it adds to (`Builder.Shaped.build`), so a parsed document has it, and its nodes are
numbered as a walk through it takes them (`inPreorder_of_parse`). -/

namespace GladeGo

/-! ### Shaped documents -/

section Kinds
variable {document : Document} {number : Nat}

theorem kind_eq_none (h : document.size ≤ number) : (document.node number).kind? = none := by
  have hnone : document.nodes[number]? = none := Array.getElem?_eq_none h
  rw [Node.kind?, Node.entry?, Document.node, hnone]
  rfl

theorem isElement_of_kind {node : Node} {tag : String} {attributes : List (String × String)}
    (h : node.kind? = some (.element tag attributes)) : node.isElement = true := by
  rw [Node.isElement, Node.tag?, h]
  rfl

theorem lt_size_of_isElement (h : (document.node number).isElement = true) :
    number < document.size := by
  by_contra hlt
  rw [Node.isElement, Node.tag?, kind_eq_none (by omega)] at h
  cases h

/-- What is an element remains one. -/
theorem isElement_append {parent : Nat} {kind : NodeKind}
    (h : (document.node number).isElement = true) :
    ((document.append parent kind).node number).isElement = true := by
  rw [isElement_eq_of_kind (kind_append (lt_size_of_isElement h))]
  exact h

end Kinds

namespace Document

/-- What a document holds, node by node. -/
structure Shaped (document : Document) : Prop where
  root_kind : document.root.kind? = some .document
  /-- Every node but the first has a parent, and texts are no parents. -/
  parent : ∀ number, 0 < number → number < document.size → ∃ above,
    document.parentOf number = some above ∧ (above = 0 ∨ (document.node above).isElement = true)
  root_children : ∀ child ∈ document.childrenOf 0, (document.node child).isElement = true
  root_unique : (document.childrenOf 0).length ≤ 1
  nodup_keys : ∀ number, ((document.node number).attributes.map Prod.fst).Nodup

theorem shaped_empty : empty.Shaped where
  root_kind := rfl
  parent number hpos hlt := by rw [size_empty] at hlt; omega
  root_children child hchild := by rw [childrenOf_empty] at hchild; cases hchild
  root_unique := by rw [childrenOf_empty]; exact Nat.zero_le _
  nodup_keys number := by
    have hattributes : (empty.node number).attributes = [] := by
      rcases number with _ | number <;> rfl
    rw [hattributes]
    exact List.nodup_nil

namespace Shaped
variable {document : Document} {parent : Nat} {kind : NodeKind} (h : document.Shaped)
include h

theorem size_pos : 0 < document.size := by
  by_contra hsize
  have hkind := h.root_kind
  rw [root, kind_eq_none (by omega)] at hkind
  cases hkind

/-- An element is not the document itself. -/
theorem pos_of_isElement {number : Nat} (helement : (document.node number).isElement = true) :
    0 < number := by
  rcases Nat.eq_zero_or_pos number with rfl | hpos
  · have hkind : (document.node 0).kind? = some .document := h.root_kind
    rw [Node.isElement, Node.tag?, hkind] at helement
    cases helement
  · exact hpos

variable (hparent : parent < document.size)
  (habove : (document.node parent).isElement = true ∨
    parent = 0 ∧ document.childrenOf 0 = [] ∧ ∃ tag attributes, kind = .element tag attributes)
include hparent habove

/-- Below the document itself, only a root element is new. -/
theorem childrenOf_zero_append :
    (document.append parent kind).childrenOf 0 = document.childrenOf 0 ∨
      (document.append parent kind).childrenOf 0 = [document.size] ∧
        ∃ tag attributes, kind = .element tag attributes := by
  rw [childrenOf_append kind hparent]
  rcases habove with habove | ⟨rfl, hnil, helement⟩
  · rw [if_neg (Nat.ne_of_lt (h.pos_of_isElement habove)), List.append_nil]
    exact Or.inl rfl
  · rw [hnil, if_pos rfl]
    exact Or.inr ⟨rfl, helement⟩

variable (hkeys : ∀ tag attributes, kind = .element tag attributes →
  (attributes.map Prod.fst).Nodup)
include hkeys

omit habove in
theorem nodup_keys_append (number : Nat) :
    (((document.append parent kind).node number).attributes.map Prod.fst).Nodup := by
  rcases Nat.lt_trichotomy number document.size with hlt | rfl | hgt
  · rw [attributes_eq_of_kind (kind_append hlt)]
    exact h.nodup_keys number
  · rw [Node.attributes, kind_append_last hparent]
    cases kind with
    | element tag attributes => exact hkeys tag attributes rfl
    | document => exact List.nodup_nil
    | text content => exact List.nodup_nil
  · rw [Node.attributes, kind_eq_none (by rw [size_append]; omega)]
    exact List.nodup_nil

/-- **A document keeps its shape** when a node is added inside an element, and when its root element
is added. -/
theorem append : (document.append parent kind).Shaped := by
  have hroot := h.childrenOf_zero_append hparent habove
  refine ⟨?_, fun number hpos hlt => ?_, fun child hchild => ?_, ?_,
    h.nodup_keys_append hparent hkeys⟩
  · exact (kind_append h.size_pos).trans h.root_kind
  · rw [size_append] at hlt
    rw [parentOf_append kind hparent]
    split_ifs with hnumber
    · refine ⟨parent, rfl, ?_⟩
      rcases habove with habove | ⟨rfl, -⟩
      · exact Or.inr (isElement_append habove)
      · exact Or.inl rfl
    · obtain ⟨above, hparentOf, habove⟩ := h.parent number hpos (by omega)
      exact ⟨above, hparentOf, habove.imp_right isElement_append⟩
  · rcases hroot with heq | ⟨heq, tag, attributes, rfl⟩
    · rw [heq] at hchild
      exact isElement_append (h.root_children child hchild)
    · rw [heq, List.mem_singleton] at hchild
      exact hchild ▸ isElement_of_kind (kind_append_last hparent)
  · rcases hroot with heq | ⟨heq, -⟩
    · exact heq ▸ h.root_unique
    · rw [heq, List.length_singleton]

end Shaped

end Document

/-! ### Shaped builders -/

namespace Builder

/-- The document has its shape, and what is open is an element. -/
structure Shaped (builder : Builder) : Prop where
  wellFormed : builder.WellFormed
  document : builder.document.Shaped
  opened : ∀ innermost ∈ builder.opened, (builder.document.node innermost.1).isElement = true

theorem shaped_start : start.Shaped where
  wellFormed := wellFormed_start
  document := Document.shaped_empty
  opened _ h := nomatch h

namespace Shaped
variable {builder later : Builder} (h : builder.Shaped)
include h

theorem isElement_current (hopened : builder.opened ≠ []) :
    (builder.document.node builder.current).isElement = true := by
  obtain ⟨innermost, outer, hcons⟩ := List.exists_cons_of_ne_nil hopened
  have hcurrent : builder.current = innermost.1 := by rw [current, hcons]
  rw [hcurrent]
  exact h.opened innermost (hcons ▸ List.mem_cons_self)

theorem childrenOf_zero (hroot : builder.document.rootElement? = none) :
    builder.document.childrenOf 0 = [] := by
  rw [List.eq_nil_iff_forall_not_mem]
  intro child hchild
  have helements : builder.document.root.elements = [] := List.head?_eq_none_iff.mp hroot
  rw [Document.root, elements_node] at helements
  have hmem := List.mem_filter.mpr
    ⟨List.mem_map_of_mem hchild, h.document.root_children child hchild⟩
  rw [helements] at hmem
  cases hmem

/-- Inside an open element any node may be added, outside the root element. -/
theorem append {kind : NodeKind}
    (hinside : builder.opened ≠ [] ∨
      builder.document.rootElement? = none ∧ ∃ tag attributes, kind = .element tag attributes)
    (hkeys : ∀ tag attributes, kind = .element tag attributes →
      (attributes.map Prod.fst).Nodup) :
    Shaped { builder with document := builder.document.append builder.current kind } where
  wellFormed := h.wellFormed.append kind
  document := by
    refine h.document.append h.wellFormed.isOpen_current.1 ?_ hkeys
    by_cases hopened : builder.opened = []
    · have hcurrent : builder.current = 0 := by rw [current, hopened]
      obtain ⟨hroot, helement⟩ := hinside.resolve_left (not_not_intro hopened)
      exact Or.inr ⟨hcurrent, h.childrenOf_zero hroot, helement⟩
    · exact Or.inl (h.isElement_current hopened)
  opened innermost hmem := isElement_append (h.opened innermost hmem)

theorem addText (content : String) : (builder.addText content).Shaped := by
  unfold Builder.addText
  split
  · exact h
  · rename_i number tag outer hopened
    obtain rfl : builder.current = number := by rw [current, hopened]
    exact h.append (Or.inl (by rw [hopened]; exact List.cons_ne_nil _ _))
      fun _ _ heq => by cases heq

theorem addElement {tag : String} {attributes : List (String × String)}
    (hkeys : (attributes.map Prod.fst).Nodup)
    (hlater : builder.addElement tag attributes = .ok later) : later.Shaped := by
  obtain ⟨rfl, -⟩ := h.wellFormed.addElement hlater
  refine h.append ?_ fun _ _ heq => by cases heq; exact hkeys
  by_cases hopened : builder.opened = []
  · refine Or.inr ⟨?_, tag, attributes, rfl⟩
    by_contra hroot
    replace hroot := Option.isSome_iff_ne_none.mpr hroot
    rw [Builder.addElement, hopened, hroot] at hlater
    cases hlater
  · exact Or.inl hopened

theorem openElement {tag : String} {attributes : List (String × String)}
    (hkeys : (attributes.map Prod.fst).Nodup)
    (hlater : builder.openElement tag attributes = .ok later) : later.Shaped := by
  have hwf := h.wellFormed.openElement hlater
  obtain ⟨grown, hadd, hgrown⟩ := bind_eq_ok.mp hlater
  have hshaped := h.addElement hkeys hadd
  obtain ⟨rfl, -⟩ := h.wellFormed.addElement hadd
  cases hgrown
  refine ⟨hwf, hshaped.document, fun innermost hmem => ?_⟩
  rcases List.mem_cons.mp hmem with rfl | hmem
  · rw [Document.size_append, Nat.add_sub_cancel]
    exact isElement_of_kind (kind_append_last h.wellFormed.isOpen_current.1)
  · exact hshaped.opened innermost hmem

theorem closeElement {tag : String} (hlater : builder.closeElement tag = .ok later) :
    later.Shaped := by
  have hwf := h.wellFormed.closeElement hlater
  unfold Builder.closeElement at hlater
  split at hlater
  · cases hlater
  · rename_i hopened
    split at hlater
    · cases hlater
      exact ⟨hwf, h.document, fun innermost hmem =>
        h.opened innermost (hopened ▸ List.mem_cons_of_mem _ hmem)⟩
    · cases hlater

/-- **An event keeps the shape of a builder.** -/
theorem build {source rest : List Char} {event : Markup.Event}
    (hlater : Reading.build source builder event rest = .ok later) : later.Shaped := by
  unfold Reading.build at hlater
  split at hlater
  · split at hlater
    · cases hlater; exact h
    · split at hlater
      · cases hlater
      · cases hlater; exact h.addText _
  · cases hlater; exact h.addText _
  · split at hlater
    · cases hlater
    · rename_i hread
      have hkeys := nodup_keys_of_read hread
      split at hlater
      · exact h.addElement hkeys hlater
      · exact h.openElement hkeys hlater
  · exact h.closeElement hlater
  · cases hlater; exact h

end Shaped

end Builder

/-! ### Parsed documents -/

/-- A parsed document has its shape and a root element. -/
theorem shaped_of_parse {text : String} {document : Document}
    (h : Document.parse text = .ok document) :
    document.Shaped ∧ document.rootElement?.isSome = true := by
  obtain ⟨builder, hbuilder, hfinish⟩ :=
    Reading.invariant_of_run (fun hbuilder => Builder.Shaped.build hbuilder) h Builder.shaped_start
  obtain rfl := Builder.document_of_finish hfinish
  refine ⟨hbuilder.document, ?_⟩
  unfold Builder.finish at hfinish
  split at hfinish
  · cases hfinish
  · split at hfinish
    · assumption
    · cases hfinish

/-- A document whose nodes stand in document order, each in one place. -/
structure Document.InPreorder (document : Document) : Prop where
  root_kind : document.root.kind? = some .document
  root_parent : document.parentOf 0 = none
  /-- Every other node has a parent before it that is no text, and stands once among the children of
  its parent and among those of no other node. -/
  parent : ∀ number, 0 < number → number < document.size → ∃ above < number,
    document.parentOf number = some above ∧
    (above = 0 ∨ (document.node above).isElement = true) ∧
    (document.childrenOf above).count number = 1 ∧
    ∀ other ≠ above, number ∉ document.childrenOf other
  ordered : ∀ number, (document.childrenOf number).Pairwise (· < ·)
  preorder_eq : document.preorder 0 = List.range document.size
  root_children : ∃ element, document.childrenOf 0 = [element] ∧
    (document.node element).isElement = true
  nodup_keys : ∀ number, ((document.node number).attributes.map Prod.fst).Nodup
  attribute_eq : ∀ number key value, (document.node number).attribute? key = some value ↔
    (key, value) ∈ (document.node number).attributes

theorem lookup_eq_some_iff {entries : List (String × String)} (h : (entries.map Prod.fst).Nodup)
    {key value : String} : entries.lookup key = some value ↔ (key, value) ∈ entries := by
  induction entries with
  | nil => simp
  | cons entry entries ih =>
    obtain ⟨other, content⟩ := entry
    obtain ⟨hfirst, hnodup⟩ := List.nodup_cons.mp h
    rw [List.lookup_cons, List.mem_cons]
    by_cases hkey : key = other
    · subst hkey
      have hrest : (key, value) ∉ entries := fun hmem => hfirst (List.mem_map.mpr ⟨_, hmem, rfl⟩)
      simp [hrest, eq_comm]
    · rw [beq_eq_false_iff_ne.mpr hkey]
      simp [hkey, ih hnodup]

/-- **Parsed documents are in document order.** -/
theorem inPreorder_of_parse {text : String} {document : Document}
    (h : Document.parse text = .ok document) : document.InPreorder := by
  have hwf := Document.wellFormed_of_parse h
  obtain ⟨hshaped, hroot⟩ := shaped_of_parse h
  refine ⟨hshaped.root_kind, ?_, fun number hpos hlt => ?_, hwf.ordered, ?_, ?_,
    hshaped.nodup_keys, fun number key value => lookup_eq_some_iff (hshaped.nodup_keys number)⟩
  · by_contra hparent
    obtain ⟨above, habove⟩ := Option.ne_none_iff_exists'.mp hparent
    exact Nat.not_lt_zero _ (hwf.parent_lt 0 above habove)
  · obtain ⟨above, habove, hkind⟩ := hshaped.parent number hpos hlt
    have hmem := (hwf.mem_childrenOf above number).mpr habove
    have hnodup : (document.childrenOf above).Nodup :=
      (hwf.ordered above).imp fun {_ _} hlt => Nat.ne_of_lt hlt
    refine ⟨above, hwf.parent_lt number above habove, habove, hkind,
      List.count_eq_one_of_mem hnodup hmem, fun other hother hmem => hother ?_⟩
    have hparent := (hwf.mem_childrenOf other number).mp hmem
    rw [habove] at hparent
    exact (Option.some.inj hparent).symm
  · refine Document.preorder_zero hwf hshaped.size_pos fun number hpos hlt => ?_
    obtain ⟨above, habove, -⟩ := hshaped.parent number hpos hlt
    exact ⟨above, habove⟩
  · obtain ⟨element, helement⟩ := Option.isSome_iff_exists.mp hroot
    have hne : document.childrenOf 0 ≠ [] := by
      intro hnil
      rw [Document.rootElement?, Document.root, elements_node, hnil] at helement
      cases helement
    obtain ⟨child, children, hchildren⟩ := List.exists_cons_of_ne_nil hne
    have hunique := hshaped.root_unique
    rw [hchildren, List.length_cons] at hunique
    obtain rfl : children = [] := List.eq_nil_of_length_eq_zero (by omega)
    exact ⟨child, hchildren, hshaped.root_children child (hchildren ▸ List.mem_cons_self)⟩

/-- The document of an element with an attribute, a text and an empty element. -/
def nestedDocument : Document :=
  ((Document.empty.append 0 (.element "a" [("k", "1")])).append 1 (.text "x")).append 1
    (.element "b" [])

theorem inPreorder_of_parse_nested :
    Document.parse "<a k='1'>x<b/></a>" = .ok nestedDocument ∧ nestedDocument.InPreorder := by
  have h : Document.parse "<a k='1'>x<b/></a>" = .ok nestedDocument :=
    eq_ok_of_toOption (by decide +kernel)
  exact ⟨h, inPreorder_of_parse h⟩

end GladeGo
