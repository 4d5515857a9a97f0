import GladeGo.Proofs.Document.Peer
import GladeGo.Widget.Registry
import GladeGo.Window.Walk

/-! # What widgets read of an element

Values, arguments and widget classes read of an element its attributes and the child elements with
certain tags, which can be told from the class (`Descriptor.tags`). What they make of two elements
is the same if these are (`Node.ReadsLike`). The one value that is looked for above an object, the
label of its tab, is found in the element that holds the object (`tabLabel`). -/

namespace GladeGo

/-! ### The tags that are read -/

/-- The child elements that a source is read from. The label of an object is found in the `tabs` of
the element around it. -/
def Source.tags : Source → List String
  | .element tag => [tag]
  | .attribute _ => []
  | .child => ["tabs"]

/-- The child elements that a slot is read from. -/
def Slot.tags : Slot → List String
  | .fixed _ => []
  | .bound binding => binding.source.tags

/-- The child elements that the constructor and the setters of a widget are read from. -/
def WidgetClass.tags (widget : WidgetClass) : List String :=
  widget.arguments.flatMap Slot.tags ++ widget.properties.map Property.tag

/-- The child elements that a container reads of an item, besides the objects in it. -/
def ContainerClass.itemTags (rules : ContainerClass) : List String :=
  rules.itemArguments.flatMap Slot.tags ++
    match rules.kind with
    | .sizer _ => ["option"]
    | .window => []

/-- The child elements that a container reads, besides the objects in it. -/
def ContainerClass.tags (rules : ContainerClass) : List String :=
  rules.toWidgetClass.tags ++
    (match rules.kind with
    | .sizer orientation => [orientation]
    | .window => []) ++
    if rules.items.isNone then rules.itemTags else []

/-- The child elements that are read of an object whose base has the given descriptor. -/
def Descriptor.tags : Descriptor → List String
  | .widget w => "events" :: w.tags
  | .container c => "events" :: c.tags
  | .custom c => "events" :: "arguments" :: c.properties.map Property.tag

/-- The child elements that are read of a window, besides the objects in it. -/
def WindowClass.tags (window : WindowClass) : List String :=
  "title" :: window.properties.map Property.tag

/-- The child elements that are read of a spacer in a sizer. -/
def spacerTags : List String := ["width", "height"]

/-! ### Values -/

/-- The bindings of two objects are the same if these have the same class and `events` elements. -/
theorem eventBindings_eq_of_peers (field : String) {a b : Node}
    (hclass : a.className = b.className)
    (hevents : List.Forall₂ Node.Peer (a.elementsTagged "events") (b.elementsTagged "events")) :
    eventBindings field a = eventBindings field b := by
  have hpath : pathSteps "events/handler" = [.down "events", .down "handler"] := by decide +kernel
  have hhandlers : List.Forall₂ Node.Peer (a.follow "events/handler")
      (b.follow "events/handler") := by
    rw [Node.follow, Node.follow, hpath]
    change List.Forall₂ Node.Peer
      ([PathStep.down "handler"].foldl Node.step (Node.step [a] (.down "events")))
      ([PathStep.down "handler"].foldl Node.step (Node.step [b] (.down "events")))
    refine Node.peer_foldl_step ?_ (by decide)
    simpa only [Node.step, List.flatMap_cons, List.flatMap_nil, List.append_nil] using hevents
  unfold eventBindings
  refine mapM_congr (hhandlers.imp fun x y hpeer => ?_)
  unfold eventBinding
  rw [hpeer.attributeOrEmpty, Node.isPeering_peer.text hpeer, Node.isPeering_peer.tagOrEmpty hpeer,
    hclass]

namespace Node.ReadsLike
variable {tags : List String} {a b : Node} (h : ReadsLike tags a b)
include h

theorem emptyValue (field : String) (raw : Option String) :
    a.emptyValue field raw = b.emptyValue field raw := by
  rw [Node.emptyValue, Node.emptyValue, h.tagOrEmpty, h.className]

theorem conversionFault (field raw : String) (fault : ConversionFault) :
    a.conversionFault field raw fault = b.conversionFault field raw fault := by
  rw [Node.conversionFault, Node.conversionFault, h.tagOrEmpty, h.className]

theorem memberName : a.memberName = b.memberName := by
  unfold Node.memberName
  rw [h.attribute?]
  simp only [h.emptyValue]

theorem integerField {tag : String} (htag : tag ∈ tags) (default : Option Int) :
    a.integerField tag default = b.integerField tag default := by
  unfold Node.integerField
  rw [h.elementText? htag]
  simp only [h.emptyValue, h.conversionFault]

theorem presentValue (field : String) (raw value : Option String) :
    GladeGo.presentValue a field raw value = GladeGo.presentValue b field raw value := by
  unfold GladeGo.presentValue
  simp only [h.emptyValue]

theorem convertProperty (tag raw : String) (converter : Converter) :
    GladeGo.convertProperty a tag raw converter = GladeGo.convertProperty b tag raw converter := by
  unfold GladeGo.convertProperty
  simp only [h.presentValue, h.conversionFault]

theorem setterCalls (field : Option String) {properties : List Property}
    (htags : properties.map Property.tag ⊆ tags) :
    GladeGo.setterCalls field a properties = GladeGo.setterCalls field b properties := by
  unfold GladeGo.setterCalls
  congr 1
  refine mapM_congr (List.forall₂_same.mpr fun property hproperty => ?_)
  have htag : property.tag ∈ tags := htags (List.mem_map_of_mem hproperty)
  simp only [h.elementText? htag, h.convertProperty]

theorem eventBindings (field : String) (hevents : "events" ∈ tags) :
    GladeGo.eventBindings field a = GladeGo.eventBindings field b :=
  eventBindings_eq_of_peers field h.className (h.elementsTagged "events" hevents)

end Node.ReadsLike

/-- **The label of a page** is the same wherever its notebook stands. -/
theorem Node.HeldAlike.tabLabel {tags : List String} {holder holder' a b : Node}
    (h : HeldAlike tags holder holder' a b) (htabs : "tabs" ∈ tags) : a.tabLabel = b.tabLabel := by
  have hpath : pathSteps "../tabs/tab" = [.up, .down "tabs", .down "tab"] := by decide +kernel
  unfold Node.tabLabel
  rw [h.objects.attribute?]
  cases b.attribute? "name" with
  | none => rfl
  | some name =>
    have htab := rel_find? (h.follow_up hpath htabs (by decide)) fun tab tab' hpeer =>
      congrArg (· == some name) (show tab.attribute? "window" = tab'.attribute? "window" by
        rw [attribute?, isPeering_peer.attributes hpeer, ← attribute?])
    change Option.bind ((a.follow "../tabs/tab").find? _) _ =
      Option.bind ((b.follow "../tabs/tab").find? _) _
    revert htab
    generalize List.find? _ _ = tab
    generalize List.find? _ _ = tab'
    rintro (hpeer | _)
    · rw [Option.bind_some, Option.bind_some, isPeering_peer.text hpeer]
    · rfl

/-! ### Arguments -/

/-- Scopes whose elements are read alike, and whose objects, if there are any, as well. -/
inductive Scope.ReadsLike (tags : List String) : Scope → Scope → Prop
  | element {a b : Node} (h : Node.ReadsLike tags a b) : Scope.ReadsLike tags ⟨a, none⟩ ⟨b, none⟩
  | item {holder holder' a b : Node} (h : Node.HeldAlike tags holder holder' a b) :
      Scope.ReadsLike tags ⟨holder, some a⟩ ⟨holder', some b⟩

namespace Scope.ReadsLike
variable {tags : List String} {s t : Scope} (h : s.ReadsLike tags t)
include h

theorem node : s.node.ReadsLike tags t.node := by
  cases h with
  | element h => exact h
  | item h => exact h.holders

theorem evaluate {binding : Binding} (htags : binding.source.tags ⊆ tags) :
    binding.evaluate s = binding.evaluate t := by
  have hraw : binding.source.raw? s = binding.source.raw? t ∨
      ∃ holder holder' a b, Node.HeldAlike tags holder holder' a b ∧ "tabs" ∈ tags ∧
        binding.source.raw? s = some (.node a) ∧ binding.source.raw? t = some (.node b) := by
    cases hsource : binding.source with
    | element tag =>
      have htag : tag ∈ tags := htags (by simp [hsource, Source.tags])
      exact Or.inl (by rw [Source.raw?, Source.raw?, h.node.elementText? htag])
    | «attribute» key => exact Or.inl (by rw [Source.raw?, Source.raw?, h.node.attribute?])
    | child =>
      have htabs : "tabs" ∈ tags := htags (by simp [hsource, Source.tags])
      cases h with
      | element h => exact Or.inl rfl
      | item h => exact Or.inr ⟨_, _, _, _, h, htabs, rfl, rfl⟩
  unfold Binding.evaluate
  dsimp only
  rcases hraw with hraw | ⟨holder, holder', a, b, hobjects, htabs, hleft, hright⟩
  · rw [hraw]
    simp only [h.node.presentValue, h.node.conversionFault]
  · have hconvert : binding.converter.convert (.node a) = binding.converter.convert (.node b) := by
      cases binding.converter with
      | tabLabel => exact congrArg Except.ok (hobjects.tabLabel htabs)
      | _ => rfl
    rw [hleft, hright]
    simp only [RawValue.display, hobjects.display, hconvert, h.node.presentValue,
      h.node.conversionFault]

theorem renderArguments {slots : List Slot} (htags : slots.flatMap Slot.tags ⊆ tags) :
    GladeGo.renderArguments slots s = GladeGo.renderArguments slots t := by
  have hslot : ∀ slot ∈ slots, slot.evaluate s = slot.evaluate t := by
    intro slot hmem
    cases slot with
    | fixed expression => rfl
    | bound binding =>
      exact h.evaluate fun tag htag => htags (List.mem_flatMap.mpr ⟨_, hmem, htag⟩)
  unfold GladeGo.renderArguments
  split
  · rfl
  · rw [mapM_congr (List.forall₂_same.mpr hslot)]

end Scope.ReadsLike

/-! ### Widget classes -/

namespace Node.ReadsLike
variable {tags : List String} {a b : Node} (h : ReadsLike tags a b)
include h

theorem listedArguments (custom : CustomClass) (harguments : "arguments" ∈ tags) :
    custom.listedArguments a = custom.listedArguments b := by
  have hpath : pathSteps "arguments/argument" = [.down "arguments", .down "argument"] := by
    decide +kernel
  have htexts : (a.follow "arguments/argument").map (fun argument => Text.trim argument.text) =
      (b.follow "arguments/argument").map fun argument => Text.trim argument.text :=
    map_eq_map_iff.mpr ((h.follow hpath harguments (by decide)).imp fun _ _ hpeer => by
      rw [isPeering_peer.text hpeer])
  have hempty : (a.elementsTagged "arguments").isEmpty =
      (b.elementsTagged "arguments").isEmpty := by
    have hlength := (h.elementsTagged "arguments" harguments).length_eq
    rw [Bool.eq_iff_iff, List.isEmpty_iff_length_eq_zero, List.isEmpty_iff_length_eq_zero, hlength]
  unfold CustomClass.listedArguments
  rw [htexts, hempty]

theorem expressions (custom : CustomClass) (place : Nat) (arguments : List String) :
    custom.expressions a place arguments = custom.expressions b place arguments := by
  induction arguments generalizing place with
  | nil => rfl
  | cons argument arguments ih =>
    unfold CustomClass.expressions
    rw [h.emptyValue, ih]

/-- **What a descriptor makes of an object** depends on what it reads of it. -/
theorem resolve {descriptor : Descriptor} (htags : descriptor.tags ⊆ tags) :
    descriptor.resolve a = descriptor.resolve b := by
  have hwidget : ∀ (w : WidgetClass) (container : Option ContainerClass), w.tags ⊆ tags →
      w.resolve container a = w.resolve container b := by
    intro w container htags
    have harguments : w.arguments.flatMap Slot.tags ⊆ tags :=
      fun tag htag => htags (List.mem_append_left _ htag)
    rw [WidgetClass.resolve, WidgetClass.resolve,
      (Scope.ReadsLike.element h).renderArguments harguments]
  cases descriptor with
  | widget w => exact hwidget w none fun tag htag => htags (List.mem_cons_of_mem _ htag)
  | container c =>
    refine hwidget c.toWidgetClass (some c) fun tag htag => htags (List.mem_cons_of_mem _ ?_)
    exact List.mem_append_left _ (List.mem_append_left _ htag)
  | custom c =>
    have harguments : "arguments" ∈ tags := htags (List.mem_cons_of_mem _ List.mem_cons_self)
    refine congrArg liftM ?_
    unfold CustomClass.resolve
    simp only [h.className, h.emptyValue, h.listedArguments c harguments, h.attributeOrEmpty,
      h.expressions]

end Node.ReadsLike

end GladeGo
