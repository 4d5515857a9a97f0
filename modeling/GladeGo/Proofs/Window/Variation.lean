import GladeGo.Proofs.Go.Integer
import GladeGo.Proofs.Window.Carried
import GladeGo.Proofs.Window.Spacer

/-! # Windows that vary around their spacers

Of a box sizer and the items in which it holds spacers, resolving reads less than of others. Two
windows vary around their spacers (`Node.WindowVaries`) if they are the same but for what is not
read there: an `orient` attribute of a sizer, all that an item with a spacer has besides its class
and its option, and all that the spacer has besides its extent along the axis, or that extent as
well if the item stretches. Where one of them is resolved, the other one is resolved to the same
plan (`resolveWindow_of_varies`).

Their faults may differ, since a fault may quote a whole element, with an attribute that is not read
otherwise. So the two are compared by what they give when they succeed (`Carries`). -/

namespace GladeGo

open Text (IsInt64 trimChars)

/-! ### Variations -/

namespace Node

/-- A spacer in this item stretches: the item has a proportion. -/
def Stretches (item : Node) : Prop :=
  ∃ raw proportion, item.elementText? "option" = some raw ∧
    IsInt64 (trimChars raw.toList) proportion ∧ proportion ≠ 0

/-- Items of a box sizer with the given orientation that hold spacers for which the same is called,
or other objects that are related by `R`. -/
inductive ItemVaries (R : Node → Node → Prop) (orientation : String) (item item' : Node) : Prop
  | spacer {spacer spacer' : Node} (hclass : item.className = item'.className)
      (hobjects : item.objects = [spacer]) (hobjects' : item'.objects = [spacer'])
      (hbase : spacer.base = "EditSpacer") (hbase' : spacer'.base = "EditSpacer")
      (hoption : item.elementText? "option" = item'.elementText? "option")
      (hextent : ¬item.Stretches → spacer.elementText? (extentTag orientation) =
        spacer'.elementText? (extentTag orientation))
  | object {object object' : Node} (hreads : item.ReadsLike boxSizer.itemTags item')
      (hobjects : item.objects = [object]) (hobjects' : item'.objects = [object'])
      (hbase : object.base ≠ "EditSpacer") (hrelated : R object object')

/-- Objects of which the same is read, except around the spacers of box sizers, and which hold
objects that are related by `R`. -/
inductive VariesBy (R : Node → Node → Prop) (a b : Node) : Prop
  | sizer {orientation : String} (hbase : a.base = "EditBoxSizer")
      (hattributes : ∀ key, key ≠ "orient" → a.attribute? key = b.attribute? key)
      (horient : a.elementText? "orient" = some orientation)
      (horient' : b.elementText? "orient" = some orientation)
      (hevents : List.Forall₂ Peer (a.elementsTagged "events") (b.elementsTagged "events"))
      (hitems : List.Forall₂ (ItemVaries R orientation) (boxSizer.slots a) (boxSizer.slots b))
  | other (hbase : a.base ≠ "EditBoxSizer") (hreads : a.ReadsLike [] b)
      (htags : ∀ descriptor, Registry.wxgo.descriptor? a.base = some descriptor →
        a.ReadsLike descriptor.tags b)
      (hobjects : (Registry.wxgo.container? a).isSome → List.Forall₂ R a.objects b.objects)

/-- Objects that are the same, but for what is not read around the spacers in them. -/
def Varies (a b : Node) : Prop := ∃ R, (∀ a b, R a b → VariesBy R a b) ∧ R a b

/-- Windows that are the same, but for what is not read around the spacers in them. -/
structure WindowVaries (a b : Node) : Prop where
  reads : a.ReadsLike [] b
  tags : ∀ windowClass, Registry.wxgo.window? a.base = some windowClass →
    a.ReadsLike windowClass.tags b
  roots : List.Forall₂ Varies (Registry.wxgo.roots a) (Registry.wxgo.roots b)

section Mono
variable {R S : Node → Node → Prop}

theorem ItemVaries.mono {orientation : String} {item item' : Node} (hRS : ∀ a b, R a b → S a b)
    (h : ItemVaries R orientation item item') : ItemVaries S orientation item item' := by
  cases h with
  | spacer hclass hobjects hobjects' hbase hbase' hoption hextent =>
    exact .spacer hclass hobjects hobjects' hbase hbase' hoption hextent
  | object hreads hobjects hobjects' hbase hrelated =>
    exact .object hreads hobjects hobjects' hbase (hRS _ _ hrelated)

theorem ItemVaries.className_eq {orientation : String} {item item' : Node}
    (h : ItemVaries R orientation item item') : item.className = item'.className := by
  cases h with
  | spacer hclass => exact hclass
  | object hreads => exact hreads.className

theorem VariesBy.mono {a b : Node} (hRS : ∀ a b, R a b → S a b) (h : VariesBy R a b) :
    VariesBy S a b := by
  cases h with
  | sizer hbase hattributes horient horient' hevents hitems =>
    exact .sizer hbase hattributes horient horient' hevents (hitems.imp fun _ _ => .mono hRS)
  | other hbase hreads htags hobjects =>
    exact .other hbase hreads htags fun hcontainer => (hobjects hcontainer).imp hRS

end Mono

theorem Varies.step {a b : Node} (h : Varies a b) : VariesBy Varies a b := by
  obtain ⟨R, hR, hab⟩ := h
  exact (hR a b hab).mono fun _ _ hrelated => ⟨R, hR, hrelated⟩

/-- Objects vary if the same is read of them, and what they hold varies. -/
theorem VariesBy.varies {a b : Node} (h : VariesBy Varies a b) : Varies a b := by
  refine ⟨fun x y => Varies x y ∨ x = a ∧ y = b, fun x y hxy => ?_, Or.inr ⟨rfl, rfl⟩⟩
  rcases hxy with hvaries | ⟨rfl, rfl⟩
  · exact hvaries.step.mono fun _ _ => Or.inl
  · exact h.mono fun _ _ => Or.inl

namespace VariesBy
variable {R : Node → Node → Prop} {a b : Node} (h : VariesBy R a b)
include h

theorem attribute? {key : String} (hkey : key ≠ "orient") :
    a.attribute? key = b.attribute? key := by
  cases h with
  | sizer _ hattributes => exact hattributes key hkey
  | other _ hreads => exact hreads.attribute? key

theorem attributeOrEmpty {key : String} (hkey : key ≠ "orient") :
    a.attributeOrEmpty key = b.attributeOrEmpty key := by
  rw [Node.attributeOrEmpty, h.attribute? hkey, ← Node.attributeOrEmpty]

theorem base_eq : a.base = b.base := h.attributeOrEmpty (by decide)

theorem className_eq : a.className = b.className := h.attributeOrEmpty (by decide)

theorem name_eq : a.name = b.name := h.attributeOrEmpty (by decide)

end VariesBy

end Node

/-! ### What is attached -/

variable {container : Container} {node item item' object object' : Node}

/-- Spacers in items that vary are attached by the same call. -/
theorem SpacerCall.of_varies {sizer orientation : String} {call : LayoutCall}
    (hoption : item.elementText? "option" = item'.elementText? "option")
    (hextent : ¬item.Stretches → object.elementText? (extentTag orientation) =
      object'.elementText? (extentTag orientation))
    (h : SpacerCall sizer orientation item object call) :
    SpacerCall sizer orientation item' object' call := by
  cases h with
  | stretch hraw hvalue hne => exact .stretch (hoption ▸ hraw) hvalue hne
  | fixed hzero hraw hvalue =>
    have hnot : ¬item.Stretches := by
      rintro ⟨raw, proportion, hraw, hproportion, hne⟩
      exact hne (Go.isInt64_unique hproportion (hzero raw hraw))
    exact .fixed (hoption ▸ hzero) (hextent hnot ▸ hraw) hvalue

namespace Container

section BoxSizer
variable {R : Node → Node → Prop} {orientation : String} (hregistry : container.registry = .wxgo)
  (hrules : container.rules = boxSizer)
  (horient : container.node.elementText? "orient" = some orientation)
  (horient' : node.elementText? "orient" = some orientation)
  (hrelated : ∀ a b, R a b → a.base = b.base ∧ a.name = b.name)
include hregistry hrules horient horient' hrelated

theorem carries_attachItem_boxSizer (h : Node.ItemVaries R orientation item item') :
    Carries (List.Forall₂ Attachment.SameCall) (container.attachItem item).result
      ((container.withNode node).attachItem item').result := by
  have hrules' : (container.withNode node).rules = boxSizer := hrules
  refine carries_attachItem ?_
  cases h with
  | @spacer spacer spacer' hclass hobjects hobjects' hbase hbase' hoption hextent =>
    rw [hobjects, hobjects']
    refine .cons ?_ .nil
    have hspacer : container.registry.isSpacer spacer.base = true := by
      rw [hregistry]
      exact wxgo_isSpacer_iff.mpr hbase
    have hspacer' : (container.withNode node).registry.isSpacer spacer'.base = true := by
      change container.registry.isSpacer spacer'.base = true
      rw [hregistry]
      exact wxgo_isSpacer_iff.mpr hbase'
    rw [result_attachObject_of_spacer hspacer, result_attachObject_of_spacer hspacer']
    have hcall : Carries Eq (container.spacerCall item spacer)
        ((container.withNode node).spacerCall item' spacer') := by
      intro call hcall
      have hspec := (spacerCall_eq_ok_iff hrules horient).mp hcall
      exact ⟨call, (spacerCall_eq_ok_iff hrules' horient').mpr (hspec.of_varies hoption hextent),
        rfl⟩
    exact hcall.map fun call call' hsame => .some hsame
  | @object object object' hreads hobjects hobjects' hbase hab =>
    rw [hobjects, hobjects']
    refine .cons ?_ .nil
    obtain ⟨hbaseEq, hnameEq⟩ := hrelated _ _ hab
    refine carries_attachObject_member hregistry hbaseEq hnameEq hbase fun _ => ?_
    -- An item of a box sizer is asked for its own child elements only, whatever it holds.
    have hrender : renderArguments boxSizer.itemArguments ⟨item, some object⟩ =
        renderArguments boxSizer.itemArguments ⟨item', some object'⟩ :=
      (Scope.ReadsLike.element hreads).renderArguments (List.subset_append_left _ _)
    rw [hrules, hrender]
    exact fun extra hextra => ⟨extra, hextra, rfl⟩

theorem carries_attachAll_boxSizer (hitems : List.Forall₂ (Node.ItemVaries R orientation)
      (boxSizer.slots container.node) (boxSizer.slots node)) :
    Carries (List.Forall₂ Attachment.SameCall) container.attachAll.result
      (container.withNode node).attachAll.result := by
  have hitemClass : container.rules.items = some ⟨"sizeritem", some "sizerslot"⟩ := by
    rw [hrules]
    rfl
  refine carries_attachAll (fun slots hslots => ?_) fun item item' =>
    carries_attachItem_boxSizer hregistry hrules horient horient' hrelated
  obtain ⟨rfl, hclass⟩ := holders_ok hslots
  have hclass' : ∀ slot ∈ (container.withNode node).rules.slots node,
      slot.className = "sizeritem" := by
    change ∀ slot ∈ container.rules.slots node, slot.className = "sizeritem"
    intro slot hslot
    rw [hrules] at hslot
    obtain ⟨slot', hslot', hvaries⟩ := exists_of_mem_left hitems.flip hslot
    rw [← hvaries.className_eq]
    exact hclass _ hitemClass slot' (hrules ▸ hslot')
  refine ⟨_, holders_of_class hitemClass hclass', ?_⟩
  change List.Forall₂ _ (container.rules.slots container.node) (container.rules.slots node)
  rwa [hrules]

end BoxSizer

end Container

/-! ### What is added -/

namespace Node.VariesBy
variable {a b : Node} {descriptor : Descriptor} (h : VariesBy Varies a b)
  (hlookup : Registry.wxgo.descriptor? a.base = some descriptor)
include h hlookup

theorem resolve {widget : ResolvedWidget} (hwidget : (descriptor.resolve a).result = .ok widget) :
    (descriptor.resolve b).result = .ok widget := by
  cases h with
  | sizer hbase _ horient horient' _ _ =>
    rw [hbase] at hlookup
    obtain rfl : Descriptor.container boxSizer = descriptor := Option.some.inj hlookup
    obtain ⟨raw, expression, hraw, hconstant, hne, rfl⟩ := resolve_boxSizer_eq_ok_iff.mp hwidget
    rw [horient] at hraw
    cases hraw
    exact resolve_boxSizer_eq_ok_iff.mpr ⟨_, expression, horient', hconstant, hne, rfl⟩
  | other _ _ htags _ =>
    rw [← (htags descriptor hlookup).resolve (List.Subset.refl _)]
    exact hwidget

theorem setterCalls (field : Option String) :
    GladeGo.setterCalls field a descriptor.properties =
      GladeGo.setterCalls field b descriptor.properties := by
  cases h with
  | sizer hbase =>
    rw [hbase] at hlookup
    obtain rfl : Descriptor.container boxSizer = descriptor := Option.some.inj hlookup
    rfl
  | other _ _ htags _ =>
    exact (htags descriptor hlookup).setterCalls field descriptor.tags_of_properties

theorem eventBindings (field : String) :
    GladeGo.eventBindings field a = GladeGo.eventBindings field b := by
  have hclass := h.className_eq
  cases h with
  | sizer _ _ _ _ hevents _ => exact eventBindings_eq_of_peers field hclass hevents
  | other _ _ htags _ =>
    have hevents : "events" ∈ descriptor.tags := by cases descriptor <;> exact List.mem_cons_self
    exact (htags descriptor hlookup).eventBindings field hevents

end Node.VariesBy

section Added
variable {p q : Pending} (hpq : p.Like Node.Varies q)
include hpq

/-- What a container attaches does not depend on what varies. -/
theorem attachments_of_varies {descriptor : Descriptor}
    (hlookup : Registry.wxgo.descriptor? p.node.base = some descriptor) {name : String}
    {widget : ResolvedWidget} (hwidget : widget.container = descriptor.container?) :
    Carries (List.Forall₂ Attachment.SameCall) (attachments .wxgo p name widget).result
      (attachments .wxgo q name widget).result := by
  have hrelated : ∀ a b, Node.Varies a b → a.base = b.base ∧ a.name = b.name :=
    fun a b hab => ⟨hab.step.base_eq, hab.step.name_eq⟩
  unfold attachments
  rw [hpq.parentObject]
  cases hrules : widget.container with
  | none => exact fun attached hattached => ⟨[], rfl, Except.ok.inj hattached ▸ .nil⟩
  | some rules =>
    rw [hwidget] at hrules
    have hcontainer : Registry.wxgo.container? p.node = some rules := by
      rw [Registry.container?, hlookup]
      exact hrules
    cases hpq.node.step with
    | sizer hbase _ horient horient' _ hitems =>
      obtain rfl : boxSizer = rules :=
        Option.some.inj ((wxgo_container?_boxSizer hbase).symm.trans hcontainer)
      exact @Container.carries_attachAll_boxSizer ⟨_, p.node, _, _, _⟩ _ _ _ rfl rfl horient
        horient' hrelated hitems
    | other hbase _ htags hobjects =>
      have hreads := htags descriptor hlookup
      have hpages := forall₂_and_mem (hobjects (by rw [hcontainer]; rfl))
      rcases wxgo_container?_cases hcontainer with ⟨hbase', -⟩ | rfl | rfl
      · exact absurd hbase' hbase
      · refine @Container.carries_attachAll_window ⟨_, p.node, _, _, _⟩ _ rfl rfl rfl
          (hpages.imp fun object object' hobject => ?_)
        obtain ⟨hbaseEq, hnameEq⟩ := hrelated _ _ hobject.1
        exact ⟨hbaseEq, hnameEq, fun _ extra hextra => ⟨extra, hextra, rfl⟩⟩
      · have htabs : "tabs" ∈ descriptor.tags := by
          cases descriptor with
          | container c =>
            cases hrules
            decide
          | widget w => cases hrules
          | custom c => cases hrules
        refine @Container.carries_attachAll_window ⟨_, p.node, _, _, _⟩ _ rfl rfl rfl
          (hpages.imp fun page page' hmembers => ?_)
        obtain ⟨hab, hpage, hpage'⟩ := hmembers
        obtain ⟨hbaseEq, hnameEq⟩ := hrelated _ _ hab
        exact ⟨hbaseEq, hnameEq, carries_label hreads htabs hpage hpage' hnameEq⟩

/-- **Adding one or the other** of two objects that vary gives the same plan, if the one is
added. -/
theorem addObject_of_varies (plan : WindowPlan) :
    Carries Eq (addObject .wxgo plan p) (addObject .wxgo plan q) := by
  intro later hlater
  obtain ⟨placement, rfl, hfree, rfl⟩ := addObject_ok hlater
  have h := hpq.node.step
  obtain ⟨hcontainer, hproperties⟩ := Descriptor.parts_of_resolve placement.resolved
  have hname : placement.pending.node.name = q.node.name := h.name_eq
  have hsetters := placement.setters_eq
  have hbindings := placement.bindings_eq
  have hattached := placement.attached_eq
  rw [hproperties, h.setterCalls placement.lookup, ← hproperties, hname] at hsetters
  rw [h.eventBindings placement.lookup, hname] at hbindings
  rw [hname] at hattached
  obtain ⟨attached, hattached', hsame⟩ :=
    attachments_of_varies hpq placement.lookup hcontainer _ hattached
  let other : Placement .wxgo :=
    { placement with
      pending := q
      attached := attached
      lookup := h.base_eq ▸ placement.lookup
      resolved := h.resolve placement.lookup placement.resolved
      name_ne := hname ▸ placement.name_ne
      setters_eq := hsetters
      bindings_eq := hbindings
      attached_eq := hattached' }
  have hfree' : plan.isTaken other.name = false := by
    change plan.isTaken q.node.name = false
    rw [← hname]
    exact hfree
  refine ⟨plan.add other, addObject_eq_add other hfree', ?_⟩
  have hcalls : placement.attached.map Attachment.call = attached.map Attachment.call :=
    map_eq_map_iff.mpr hsame
  change plan.extend _ placement.pending.node.name _ _ _ _ = plan.extend _ q.node.name _ _ _ _
  rw [WindowPlan.extend, WindowPlan.extend, hpq.parentObject, hcalls, hname]

end Added

/-! ### Windows that vary -/

section Kids
variable {R : Node → Node → Prop} (hbase : ∀ a b, R a b → a.base = b.base)
include hbase

theorem filter_visits_of_related {objects objects' : List Node}
    (h : List.Forall₂ R objects objects') :
    List.Forall₂ R (objects.filter Registry.wxgo.visits)
      (objects'.filter Registry.wxgo.visits) := by
  refine List.rel_filter (fun object object' hrelated => ?_) h
  change Registry.wxgo.visits object = true ↔ Registry.wxgo.visits object' = true
  rw [wxgo_visits_iff, wxgo_visits_iff, hbase _ _ hrelated]

/-- No spacer is visited, so that items that vary have objects to visit that are related. -/
theorem Node.ItemVaries.kids {orientation : String} {item item' : Node}
    (h : Node.ItemVaries R orientation item item') :
    List.Forall₂ R (item.objects.filter Registry.wxgo.visits)
      (item'.objects.filter Registry.wxgo.visits) := by
  have hskip : ∀ {spacer : Node}, spacer.base = "EditSpacer" →
      [spacer].filter Registry.wxgo.visits = [] := fun hspacer =>
    List.filter_cons_of_neg (wxgo_visits_iff.not.mpr (not_not_intro hspacer))
  cases h with
  | spacer _ hobjects hobjects' hspacer hspacer' =>
    rw [hobjects, hobjects', hskip hspacer, hskip hspacer']
    exact .nil
  | object _ hobjects hobjects' _ hrelated =>
    rw [hobjects, hobjects']
    exact filter_visits_of_related hbase (.cons hrelated .nil)

theorem Node.VariesBy.kids {a b : Node} (h : Node.VariesBy R a b) :
    List.Forall₂ R (Registry.wxgo.kids a) (Registry.wxgo.kids b) := by
  have hcontainer : Registry.wxgo.container? b = Registry.wxgo.container? a := by
    rw [Registry.container?, Registry.container?, h.base_eq]
  unfold Registry.kids
  rw [hcontainer]
  cases h with
  | sizer hsizer _ _ _ _ hitems =>
    rw [wxgo_container?_boxSizer hsizer]
    simp only [ContainerClass.objectsIn, List.filter_flatMap]
    exact List.rel_flatMap hitems fun item item' hitem => hitem.kids hbase
  | other hsizer _ _ hobjects =>
    cases hrules : Registry.wxgo.container? a with
    | none => exact .nil
    | some rules =>
      have hpages := hobjects (by rw [hrules]; rfl)
      have hitems : rules.items = none := by
        rcases wxgo_container?_cases hrules with ⟨hbase', -⟩ | rfl | rfl
        · exact absurd hbase' hsizer
        · rfl
        · rfl
      have hslots : ∀ node, rules.objectsIn node = node.objects := fun node => by
        simp only [ContainerClass.objectsIn, ContainerClass.slots, hitems, List.flatMap_singleton]
      simp only [hslots]
      exact filter_visits_of_related hbase hpages

end Kids

theorem keepsKids_varies : Registry.wxgo.KeepsKids Node.Varies where
  container h := by rw [Registry.container?, Registry.container?, h.step.base_eq]
  name h := h.step.name_eq
  kids h := h.step.kids fun _ _ hvaries => hvaries.step.base_eq

/-- **Windows that vary around their spacers** are resolved to the same plan, if the one is
resolved. -/
theorem resolveWindow_of_varies {window other : Node} (h : window.WindowVaries other)
    {plan : WindowPlan} (hplan : (resolveWindow .wxgo window).result = .ok plan) :
    (resolveWindow .wxgo other).result = .ok plan := by
  obtain ⟨windowClass, setters, hname, hclass, hsetters⟩ := resolveWindow_ok hplan
  have htags := h.tags windowClass hclass
  have hname' : other.className ≠ "" := h.reads.className ▸ hname
  have hclass' : Registry.wxgo.window? other.base = some windowClass := h.reads.base ▸ hclass
  have hsetters' : setterCalls none other windowClass.properties = .ok setters := by
    rw [← htags.setterCalls none (List.subset_cons_self _ _)]
    exact hsetters
  rw [result_resolveWindow hname hclass hsetters, result_walk_window windowClass h.reads.left]
    at hplan
  rw [result_resolveWindow hname' hclass' hsetters', result_walk_window windowClass h.reads.right,
    ← htags.startPlan]
  have hlisting := keepsKids_varies.listing h.reads.left h.reads.right h.roots windowClass
  obtain ⟨_, hother, rfl⟩ :=
    carries_foldlM hlisting (fun p q hpq => addObject_of_varies hpq) _ plan hplan
  exact hother

/-- **Spacers follow the orientation that their sizer is constructed with.** In a resolved window,
each item of a box sizer that holds a spacer has one call without extra arguments. It adds a
stretching spacer with the option of the item, if this is not zero, and otherwise the extent of the
spacer along the axis of the Go expression in the construction of the sizer. Nothing else of the
item and the spacer, and no `orient` attribute of a sizer, is of consequence for the plan. -/
theorem spacers_of_resolveWindow {window : Node} {text : String}
    (hparse : Document.parse text = .ok window.document) {plan : WindowPlan}
    (hplan : (resolveWindow .wxgo window).result = .ok plan) :
    (∀ sizer ∈ Registry.wxgo.members window, sizer.base = "EditBoxSizer" →
      ∃ construction orientation,
        (plan.constructions.filter fun other => other.field = sizer.name) = [construction] ∧
        construction.arguments = some orientation ∧
        List.Forall₂ (fun item call => ∃ object, item.objects = [object] ∧
            (object.base = "EditSpacer" → SpacerCall sizer.name orientation item object call))
          (sizer.objects.filter fun item => item.className == "sizeritem")
          (plan.layoutOf sizer.name)) ∧
    ∀ other, window.WindowVaries other → (resolveWindow .wxgo other).result = .ok plan := by
  obtain ⟨resolution⟩ := exists_resolution (Document.wellFormed_of_parse hparse) hplan
  exact ⟨fun sizer hsizer hbase => spacers_of_boxSizer resolution hsizer hbase,
    fun other hvaries => resolveWindow_of_varies hvaries hplan⟩

/-- The text of a window with a row of a stretching spacer, a button, and a fixed spacer. -/
def spacedText : String :=
  "<application><object class='Main' name='main' base='EditFrame'
    ><object class='wxBoxSizer' name='row' base='EditBoxSizer'><orient>wxHORIZONTAL</orient
      ><object class='sizeritem'><option>2</option
        ><object class='spacer' name='spacer' base='EditSpacer'
          ><width>5</width><height>6</height></object></object
      ><object class='sizeritem'><option>0</option><border>0</border
        ><object class='wxButton' name='go' base='EditButton'><label>Go</label></object></object
      ><object class='sizeritem'><border>4</border
        ><object class='spacer' name='spacer' base='EditSpacer'
          ><width>7</width><height>8</height></object></object></object></object></application>"

/-- The document of `spacedText`. -/
def spacedDocument : Document where
  nodes := #[
    ⟨.document, none, #[1]⟩,
    ⟨.element "application" [], some 0, #[2]⟩,
    ⟨.element "object" [("class", "Main"), ("name", "main"), ("base", "EditFrame")], some 1, #[3]⟩,
    ⟨.element "object" [("class", "wxBoxSizer"), ("name", "row"), ("base", "EditBoxSizer")], some 2,
      #[4, 6, 14, 22]⟩,
    ⟨.element "orient" [], some 3, #[5]⟩,
    ⟨.text "wxHORIZONTAL", some 4, #[]⟩,
    ⟨.element "object" [("class", "sizeritem")], some 3, #[7, 9]⟩,
    ⟨.element "option" [], some 6, #[8]⟩,
    ⟨.text "2", some 7, #[]⟩,
    ⟨.element "object" [("class", "spacer"), ("name", "spacer"), ("base", "EditSpacer")], some 6,
      #[10, 12]⟩,
    ⟨.element "width" [], some 9, #[11]⟩,
    ⟨.text "5", some 10, #[]⟩,
    ⟨.element "height" [], some 9, #[13]⟩,
    ⟨.text "6", some 12, #[]⟩,
    ⟨.element "object" [("class", "sizeritem")], some 3, #[15, 17, 19]⟩,
    ⟨.element "option" [], some 14, #[16]⟩,
    ⟨.text "0", some 15, #[]⟩,
    ⟨.element "border" [], some 14, #[18]⟩,
    ⟨.text "0", some 17, #[]⟩,
    ⟨.element "object" [("class", "wxButton"), ("name", "go"), ("base", "EditButton")], some 14,
      #[20]⟩,
    ⟨.element "label" [], some 19, #[21]⟩,
    ⟨.text "Go", some 20, #[]⟩,
    ⟨.element "object" [("class", "sizeritem")], some 3, #[23, 25]⟩,
    ⟨.element "border" [], some 22, #[24]⟩,
    ⟨.text "4", some 23, #[]⟩,
    ⟨.element "object" [("class", "spacer"), ("name", "spacer"), ("base", "EditSpacer")], some 22,
      #[26, 28]⟩,
    ⟨.element "width" [], some 25, #[27]⟩,
    ⟨.text "7", some 26, #[]⟩,
    ⟨.element "height" [], some 25, #[29]⟩,
    ⟨.text "8", some 28, #[]⟩]

/-- The text of `spacedText` with an `orient` attribute, and with other flags, borders and extents
where these are of no consequence. -/
def respacedText : String :=
  "<application><object class='Main' name='main' base='EditFrame'
    ><object class='wxBoxSizer' name='row' base='EditBoxSizer' orient='wxVERTICAL'
      ><orient>wxHORIZONTAL</orient
      ><object class='sizeritem'><option>2</option><flag>wxALL</flag
        ><object class='spacer' name='gap' base='EditSpacer'/></object
      ><object class='sizeritem'><option>0</option><border>0</border
        ><object class='wxButton' name='go' base='EditButton'><label>Go</label></object></object
      ><object class='sizeritem'><border>none</border
        ><object class='spacer' name='spacer' base='EditSpacer'
          ><width>7</width><height>tall</height></object></object></object></object></application>"

/-- The document of `respacedText`. -/
def respacedDocument : Document where
  nodes := #[
    ⟨.document, none, #[1]⟩,
    ⟨.element "application" [], some 0, #[2]⟩,
    ⟨.element "object" [("class", "Main"), ("name", "main"), ("base", "EditFrame")], some 1, #[3]⟩,
    ⟨.element "object" [("class", "wxBoxSizer"), ("name", "row"), ("base", "EditBoxSizer"),
      ("orient", "wxVERTICAL")], some 2, #[4, 6, 12, 20]⟩,
    ⟨.element "orient" [], some 3, #[5]⟩,
    ⟨.text "wxHORIZONTAL", some 4, #[]⟩,
    ⟨.element "object" [("class", "sizeritem")], some 3, #[7, 9, 11]⟩,
    ⟨.element "option" [], some 6, #[8]⟩,
    ⟨.text "2", some 7, #[]⟩,
    ⟨.element "flag" [], some 6, #[10]⟩,
    ⟨.text "wxALL", some 9, #[]⟩,
    ⟨.element "object" [("class", "spacer"), ("name", "gap"), ("base", "EditSpacer")], some 6, #[]⟩,
    ⟨.element "object" [("class", "sizeritem")], some 3, #[13, 15, 17]⟩,
    ⟨.element "option" [], some 12, #[14]⟩,
    ⟨.text "0", some 13, #[]⟩,
    ⟨.element "border" [], some 12, #[16]⟩,
    ⟨.text "0", some 15, #[]⟩,
    ⟨.element "object" [("class", "wxButton"), ("name", "go"), ("base", "EditButton")], some 12,
      #[18]⟩,
    ⟨.element "label" [], some 17, #[19]⟩,
    ⟨.text "Go", some 18, #[]⟩,
    ⟨.element "object" [("class", "sizeritem")], some 3, #[21, 23]⟩,
    ⟨.element "border" [], some 20, #[22]⟩,
    ⟨.text "none", some 21, #[]⟩,
    ⟨.element "object" [("class", "spacer"), ("name", "spacer"), ("base", "EditSpacer")], some 20,
      #[24, 26]⟩,
    ⟨.element "width" [], some 23, #[25]⟩,
    ⟨.text "7", some 24, #[]⟩,
    ⟨.element "height" [], some 23, #[27]⟩,
    ⟨.text "tall", some 26, #[]⟩]

set_option maxRecDepth 10000 in
theorem parse_spacedText : Document.parse spacedText = .ok spacedDocument := by
  apply eq_ok_of_toOption
  rw [Document.parse, show spacedText.toList = _ from String.toList_ofList]
  decide +kernel

set_option maxRecDepth 10000 in
theorem parse_respacedText : Document.parse respacedText = .ok respacedDocument := by
  apply eq_ok_of_toOption
  rw [Document.parse, show respacedText.toList = _ from String.toList_ofList]
  decide +kernel

/-- The items with the button are the same in both rows. -/
theorem alike_items : (spacedDocument.node 14).Alike (respacedDocument.node 12) :=
  ⟨Document.wellFormed_of_parse parse_spacedText, Document.wellFormed_of_parse parse_respacedText,
    by decide +kernel⟩

theorem varies_buttons : (spacedDocument.node 19).Varies (respacedDocument.node 17) := by
  have hbutton : (spacedDocument.node 19).Alike (respacedDocument.node 17) :=
    ⟨alike_items.left, alike_items.right, by decide +kernel⟩
  refine Node.VariesBy.varies (.other (by decide +kernel) (hbutton.readsLike [])
    (fun _ _ => hbutton.readsLike _) fun hcontainer => ?_)
  exact absurd hcontainer (by decide +kernel)

theorem itemVaries_rows : List.Forall₂ (Node.ItemVaries Node.Varies "wxHORIZONTAL")
    (boxSizer.slots (spacedDocument.node 3)) (boxSizer.slots (respacedDocument.node 3)) := by
  have hitems : boxSizer.slots (spacedDocument.node 3) =
      [spacedDocument.node 6, spacedDocument.node 14, spacedDocument.node 22] := by decide +kernel
  have hitems' : boxSizer.slots (respacedDocument.node 3) =
      [respacedDocument.node 6, respacedDocument.node 12, respacedDocument.node 20] := by
    decide +kernel
  rw [hitems, hitems']
  refine .cons ?stretching (.cons ?button (.cons ?fixed .nil))
  case stretching =>
    refine @Node.ItemVaries.spacer _ _ _ _ (spacedDocument.node 9) (respacedDocument.node 11)
      (by decide +kernel) (by decide +kernel) (by decide +kernel) (by decide +kernel)
      (by decide +kernel) (by decide +kernel) fun hstretches => ?_
    refine absurd ⟨"2", 2, by decide +kernel, ?_, by decide⟩ hstretches
    exact Text.readInt_eq_ok_iff.mp (eq_ok_of_toOption (by decide +kernel))
  case button =>
    exact .object (alike_items.readsLike _) (by decide +kernel) (by decide +kernel)
      (by decide +kernel) varies_buttons
  case fixed =>
    refine @Node.ItemVaries.spacer _ _ _ _ (spacedDocument.node 25) (respacedDocument.node 23)
      (by decide +kernel) (by decide +kernel) (by decide +kernel) (by decide +kernel)
      (by decide +kernel) (by decide +kernel) fun _ => by decide +kernel

theorem varies_rows : (spacedDocument.node 3).Varies (respacedDocument.node 3) := by
  have hevents : (spacedDocument.node 3).elementsTagged "events" = [] ∧
      (respacedDocument.node 3).elementsTagged "events" = [] := by decide +kernel
  have hattributes : (respacedDocument.node 3).attributes =
      (spacedDocument.node 3).attributes ++ [("orient", "wxVERTICAL")] := by decide +kernel
  refine Node.VariesBy.varies (.sizer (by decide +kernel) (fun key hkey => ?_) (by decide +kernel)
    (by decide +kernel) ?_ itemVaries_rows)
  · have hnone : [("orient", "wxVERTICAL")].lookup key = none := by simp [hkey]
    rw [Node.attribute?, Node.attribute?, hattributes, List.lookup_append, hnone, Option.or_none]
  · rw [hevents.1, hevents.2]
    exact .nil

theorem readsLike_windows :
    (spacedDocument.node 2).ReadsLike (wxWindow "Frame").tags (respacedDocument.node 2) where
  left := alike_items.left
  right := alike_items.right
  tagOrEmpty := by decide +kernel
  attributes := by decide +kernel
  elementsTagged := by
    have hnone : ∀ tag ∈ (wxWindow "Frame").tags, (spacedDocument.node 2).elementsTagged tag = [] ∧
        (respacedDocument.node 2).elementsTagged tag = [] := by decide +kernel
    intro tag htag
    rw [(hnone tag htag).1, (hnone tag htag).2]
    exact .nil

theorem windowVaries_respaced :
    (spacedDocument.node 2).WindowVaries (respacedDocument.node 2) where
  reads := readsLike_windows.mono (List.nil_subset _)
  tags windowClass hclass := by
    have hframe : Registry.wxgo.window? (spacedDocument.node 2).base = some (wxWindow "Frame") :=
      rfl
    obtain rfl : wxWindow "Frame" = windowClass := Option.some.inj (hframe.symm.trans hclass)
    exact readsLike_windows
  roots := by
    have hroots : Registry.wxgo.roots (spacedDocument.node 2) = [spacedDocument.node 3] := by
      decide +kernel
    have hroots' : Registry.wxgo.roots (respacedDocument.node 2) = [respacedDocument.node 3] := by
      decide +kernel
    rw [hroots, hroots']
    exact .cons varies_rows .nil

theorem spacers_of_resolveWindow_spacedDocument : ∃ plan,
    (resolveWindow .wxgo (spacedDocument.node 2)).result = .ok plan ∧
    (∃ construction orientation,
      (plan.constructions.filter fun other => other.field = "row") = [construction] ∧
      construction.arguments = some orientation ∧
      List.Forall₂ (fun item call => ∃ object, item.objects = [object] ∧
          (object.base = "EditSpacer" → SpacerCall "row" orientation item object call))
        [spacedDocument.node 6, spacedDocument.node 14, spacedDocument.node 22]
        (plan.layoutOf "row")) ∧
    (spacedDocument.node 2).WindowVaries (respacedDocument.node 2) ∧
    (resolveWindow .wxgo (respacedDocument.node 2)).result = .ok plan := by
  obtain ⟨plan, hplan⟩ :
      ∃ plan, (resolveWindow .wxgo (spacedDocument.node 2)).result = .ok plan :=
    exists_ok_of_isSome (by decide +kernel)
  have hparse : Document.parse spacedText = .ok (spacedDocument.node 2).document := parse_spacedText
  obtain ⟨hspacers, hvaries⟩ := spacers_of_resolveWindow hparse hplan
  have hrow := hspacers (spacedDocument.node 3) (by decide +kernel) (by decide +kernel)
  have hname : (spacedDocument.node 3).name = "row" := by decide +kernel
  have hitems : ((spacedDocument.node 3).objects.filter fun item => item.className == "sizeritem") =
      [spacedDocument.node 6, spacedDocument.node 14, spacedDocument.node 22] := by decide +kernel
  rw [hname, hitems] at hrow
  exact ⟨plan, hplan, hrow, windowVaries_respaced, hvaries _ windowVaries_respaced⟩

end GladeGo
