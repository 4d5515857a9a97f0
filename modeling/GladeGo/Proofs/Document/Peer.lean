import GladeGo.Document.Display
import GladeGo.Document.Path
import GladeGo.Proofs.Document.Alike

/-! # Elements that are read alike

Of an element, what is read is its tag, its attributes, its text, and those child elements that have
certain tags. Two elements that agree in all this are read alike (`ReadsLike`). The child elements
are then compared to the end, but for the objects inside them (`Peer`), since no path goes through
an object. An object also knows the element around it, so two objects are compared together with the
elements that hold them (`HeldAlike`). -/

namespace GladeGo.Node

/-- A relation of elements with the same tag, attributes and text, of which the child elements, the
objects left out, are again related. -/
structure IsPeering (R : Node → Node → Prop) : Prop where
  tagOrEmpty : ∀ {a b}, R a b → a.tagOrEmpty = b.tagOrEmpty
  attributes : ∀ {a b}, R a b → a.attributes = b.attributes
  text : ∀ {a b}, R a b → a.text = b.text
  elementsTagged : ∀ {a b}, R a b → ∀ {tag}, tag ≠ "object" →
    List.Forall₂ R (a.elementsTagged tag) (b.elementsTagged tag)

/-- Elements that are the same, but for the objects inside them. -/
def Peer (a b : Node) : Prop := ∃ R, IsPeering R ∧ R a b

theorem isPeering_peer : IsPeering Peer where
  tagOrEmpty := fun ⟨_, hR, h⟩ => hR.tagOrEmpty h
  attributes := fun ⟨_, hR, h⟩ => hR.attributes h
  text := fun ⟨_, hR, h⟩ => hR.text h
  elementsTagged := fun ⟨R, hR, h⟩ _ htag => (hR.elementsTagged h htag).imp fun _ _ h => ⟨R, hR, h⟩

theorem isPeering_alike : IsPeering Alike where
  tagOrEmpty h := h.tagOrEmpty
  attributes h := h.attributes
  text h := h.text
  elementsTagged h _ _ := h.elementsTagged _

theorem Peer.attributeOrEmpty {a b : Node} (h : Peer a b) (key : String) :
    a.attributeOrEmpty key = b.attributeOrEmpty key := by
  rw [Node.attributeOrEmpty, attribute?, isPeering_peer.attributes h]
  rfl

/-- Steps down, past objects, lead from peers to peers. -/
theorem peer_foldl_step {as bs : List Node} (h : List.Forall₂ Peer as bs) {steps : List PathStep}
    (hsteps : ∀ step ∈ steps, step ≠ .up ∧ step ≠ .down "object") :
    List.Forall₂ Peer (steps.foldl step as) (steps.foldl step bs) := by
  induction steps generalizing as bs with
  | nil => exact h
  | cons first steps ih =>
    obtain ⟨⟨hup, hobject⟩, hsteps⟩ := List.forall_mem_cons.mp hsteps
    refine ih ?_ hsteps
    cases first with
    | stay => exact h
    | up => exact absurd rfl hup
    | down tag =>
      have htag : tag ≠ "object" := fun heq => hobject (heq ▸ rfl)
      exact List.rel_flatMap h fun _ _ hpeer => isPeering_peer.elementsTagged hpeer htag

/-! ### Elements -/

/-- Elements with the same tag and attributes, of which the child elements with the given tags are
the same but for the objects inside them. -/
structure ReadsLike (tags : List String) (a b : Node) : Prop where
  left : a.document.WellFormed
  right : b.document.WellFormed
  tagOrEmpty : a.tagOrEmpty = b.tagOrEmpty
  attributes : a.attributes = b.attributes
  elementsTagged : ∀ tag ∈ tags, List.Forall₂ Peer (a.elementsTagged tag) (b.elementsTagged tag)

theorem Alike.readsLike {a b : Node} (h : Alike a b) (tags : List String) :
    ReadsLike tags a b where
  left := h.left
  right := h.right
  tagOrEmpty := h.tagOrEmpty
  attributes := h.attributes
  elementsTagged tag _ := (h.elementsTagged tag).imp fun _ _ h => ⟨Alike, isPeering_alike, h⟩

namespace ReadsLike
variable {tags : List String} {a b : Node} (h : ReadsLike tags a b)
include h

theorem mono {fewer : List String} (hsubset : fewer ⊆ tags) : ReadsLike fewer a b :=
  { h with elementsTagged := fun tag htag => h.elementsTagged tag (hsubset htag) }

theorem attribute? (key : String) : a.attribute? key = b.attribute? key := by
  rw [Node.attribute?, h.attributes, ← Node.attribute?]

theorem attributeOrEmpty (key : String) : a.attributeOrEmpty key = b.attributeOrEmpty key := by
  rw [Node.attributeOrEmpty, h.attribute?, ← Node.attributeOrEmpty]

theorem className : a.className = b.className := h.attributeOrEmpty "class"

theorem base : a.base = b.base := h.attributeOrEmpty "base"

theorem elementText? {tag : String} (htag : tag ∈ tags) :
    a.elementText? tag = b.elementText? tag := by
  have htagged := h.elementsTagged tag htag
  unfold Node.elementText?
  generalize a.elementsTagged tag = found at htagged ⊢
  generalize b.elementsTagged tag = found' at htagged ⊢
  cases htagged with
  | nil => rfl
  | @cons x y xs ys hxy hrest =>
    have htexts : (x :: xs).map Node.text = (y :: ys).map Node.text :=
      map_eq_map_iff.mpr ((List.Forall₂.cons hxy hrest).imp fun _ _ => isPeering_peer.text)
    simp only [htexts]

/-- A path that goes down, first to child elements that are read. -/
theorem follow {path first : String} {steps : List PathStep}
    (hpath : pathSteps path = .down first :: steps) (hfirst : first ∈ tags)
    (hsteps : ∀ step ∈ steps, step ≠ .up ∧ step ≠ .down "object") :
    List.Forall₂ Peer (a.follow path) (b.follow path) := by
  simp only [Node.follow, hpath, List.foldl_cons]
  refine peer_foldl_step ?_ hsteps
  simp only [step, List.flatMap_cons, List.flatMap_nil, List.append_nil]
  exact h.elementsTagged first hfirst

end ReadsLike

/-! ### Objects and what holds them -/

/-- Objects with the same attributes, in elements that are read alike. -/
structure HeldAlike (tags : List String) (holder holder' a b : Node) : Prop where
  holders : ReadsLike tags holder holder'
  objects : ReadsLike [] a b
  left : a ∈ holder.objects
  right : b ∈ holder'.objects

namespace HeldAlike
variable {tags : List String} {holder holder' a b : Node} (h : HeldAlike tags holder holder' a b)
include h

theorem display : a.display = b.display := by
  have hkind := kind_of_tag ((mem_objects_iff h.holders.left).mp h.left).2
  have hkind' := kind_of_tag ((mem_objects_iff h.holders.right).mp h.right).2
  rw [Node.display, Node.display, hkind, hkind', h.objects.attributes]

/-- A path that goes up once, and then down to child elements that are read. -/
theorem follow_up {path first : String} {steps : List PathStep}
    (hpath : pathSteps path = .up :: .down first :: steps) (hfirst : first ∈ tags)
    (hsteps : ∀ step ∈ steps, step ≠ .up ∧ step ≠ .down "object") :
    List.Forall₂ Peer (a.follow path) (b.follow path) := by
  have hstep : step [a] .up = [holder] := by
    simp [step, parent_of_mem_objects h.holders.left h.left]
  have hstep' : step [b] .up = [holder'] := by
    simp [step, parent_of_mem_objects h.holders.right h.right]
  simp only [Node.follow, hpath, List.foldl_cons, hstep, hstep']
  refine peer_foldl_step ?_ hsteps
  simp only [step, List.flatMap_cons, List.flatMap_nil, List.append_nil]
  exact h.holders.elementsTagged first hfirst

end HeldAlike

end GladeGo.Node
