import GladeGo.Proofs.Widget.Alike
import GladeGo.Proofs.Window.Resolution

/-! # Windows that simulate each other

A relation between the objects of two documents is a simulation if related objects are read alike
and their slots hold related objects (`Registry.IsSimulation`). Objects that are passed over need
not stand in both documents, as long as each slot holds as many objects as it may. Related
containers find different nodes, but make the same calls (`attachAll_agree`), so adding one or the
other of two related objects gives the same plan (`addObject_eq`). Since a window is resolved by
adding its members in level order, two windows with related roots are resolved to the same plan
(`resolveWindow_eq`). -/

namespace GladeGo

/-! ### Simulations -/

section Relation
variable (registry : Registry) (R : Node → Node → Prop)

/-- Objects in the slots of two containers that are attached alike. -/
inductive Registry.AttachesLike : Node → Node → Prop
  | spacer {a b : Node} (hspacer : registry.isSpacer a.base = true)
      (h : a.ReadsLike spacerTags b) : AttachesLike a b
  | object {a b : Node} (hspacer : registry.isSpacer a.base = false) (h : R a b) :
      AttachesLike a b

/-- Slots that are read alike and in which the same is attached. If there are not as many objects in
them as there may be, the fault tells how many there are. -/
structure Registry.HoldsLike (rules : ContainerClass) (slot slot' : Node) : Prop where
  reads : slot.ReadsLike rules.itemTags slot'
  admits_eq : rules.cardinality.admits slot.objects.length =
    rules.cardinality.admits slot'.objects.length
  length_eq : rules.cardinality.admits slot'.objects.length = false →
    slot.objects.length = slot'.objects.length
  objects : List.Forall₂ (registry.AttachesLike R) (slot.objects.filter registry.attaches)
    (slot'.objects.filter registry.attaches)

/-- Related objects are read alike and hold related objects. -/
structure Registry.IsSimulation : Prop where
  reads : ∀ {a b}, R a b → a.ReadsLike [] b
  reads_tags : ∀ {a b}, R a b → ∀ {descriptor}, registry.descriptor? a.base = some descriptor →
    a.ReadsLike descriptor.tags b
  slots : ∀ {a b}, R a b → ∀ {rules}, registry.container? a = some rules →
    List.Forall₂ (registry.HoldsLike R rules) (rules.slots a) (rules.slots b)

/-- Related objects that wait in the same places. -/
structure Pending.Like (p q : Pending) : Prop where
  node : R p.node q.node
  parentField : p.parentField = q.parentField
  parentObject : p.parentObject = q.parentObject

end Relation

/-! ### The calls of a container -/

/-- Attachments that make the same call. -/
def Attachment.SameCall (entry entry' : Attachment) : Prop := entry.call = entry'.call

namespace Container

/-- The container with another node in the place of its own. -/
abbrev withNode (container : Container) (node : Node) : Container := { container with node }

/-- **What is passed over leaves no trace**, but that it is counted. -/
theorem result_attachItem (container : Container) (item : Node) :
    (container.attachItem item).result =
      if container.rules.cardinality.admits item.objects.length then
        ((item.objects.filter container.registry.attaches).mapM fun object =>
          (container.attachObject item object).result).map (List.filterMap id)
      else .error (container.fault
        (.wrongCount item.className item.objects.length container.rules.cardinality)) := by
  have hskip : ∀ object, container.registry.attaches object = false →
      (container.attachObject item object).result = .ok none := by
    intro object hobject
    obtain ⟨hspacer, hignored⟩ : container.registry.isSpacer object.base = false ∧
        container.registry.isIgnored object.base = true := by
      simpa [Registry.attaches] using hobject
    simp [attachObject, hspacer, hignored]
  unfold attachItem
  dsimp only
  split
  · rw [map_filterMap_mapM_filter hskip, Logged.result_bind, Logged.result_mapM]
    exact bind_pure_comp (m := Except ResolutionFault) _ _
  · rfl

section Agree
variable {R : Node → Node → Prop} {container : Container} {node : Node}
  (h : container.node.ReadsLike container.rules.tags node)
include h

theorem fault_eq (fault : ContainerFault) :
    container.fault fault = (container.withNode node).fault fault := by
  rw [Container.fault, Container.fault, h.className]

theorem spacerCall_eq {item item' spacer spacer' : Node}
    (hitem : item.ReadsLike container.rules.itemTags item')
    (hspacer : spacer.ReadsLike spacerTags spacer') :
    container.spacerCall item spacer = (container.withNode node).spacerCall item' spacer' := by
  unfold spacerCall
  dsimp only
  cases hkind : container.rules.kind with
  | window => exact congrArg Except.error (fault_eq h _)
  | sizer orientation =>
    have horientation : orientation ∈ container.rules.tags := by
      simp [ContainerClass.tags, hkind]
    have hoption : "option" ∈ container.rules.itemTags := by
      simp [ContainerClass.itemTags, hkind]
    have haxis : container.isHorizontal orientation =
        (container.withNode node).isHorizontal orientation := by
      rw [isHorizontal, isHorizontal, h.elementText? horientation, h.attribute?]
    have hextent : (if container.isHorizontal orientation then "width" else "height") ∈
        spacerTags := by
      split <;> decide
    dsimp only
    rw [hitem.integerField hoption, hspacer.integerField hextent, haxis]

theorem attachObject_agree {item item' object object' : Node}
    (hheld : Node.HeldAlike container.rules.itemTags item item' object object')
    (hlike : container.registry.AttachesLike R object object') :
    Agree (Option.Rel Attachment.SameCall) (container.attachObject item object).result
      ((container.withNode node).attachObject item' object').result := by
  have hslots : container.rules.itemArguments.flatMap Slot.tags ⊆ container.rules.itemTags :=
    fun tag htag => List.mem_append_left _ htag
  have hextra := (Scope.ReadsLike.item hheld).renderArguments hslots
  unfold attachObject
  simp only [← hheld.objects.base, ← hheld.objects.memberName, hextra]
  cases hlike with
  | spacer hspacer hreads =>
    simp only [if_pos hspacer, Logged.result_bind, Logged.result_liftM, Logged.result_log,
      Logged.result_pure, ok_bind, spacerCall_eq h hheld.holders hreads]
    exact (agree_eq _).bind fun call call' hsame => .ok (.some (hsame ▸ rfl))
  | object hspacer _ =>
    simp only [hspacer, Bool.false_eq_true, if_false]
    by_cases hignored : container.registry.isIgnored object.base = true
    · simp only [if_pos hignored]
      exact .ok .none
    · simp only [if_neg hignored, Logged.result_bind, Logged.result_liftM, Logged.result_log,
        Logged.result_pure, ok_bind]
      refine (agree_eq _).bind fun name name' hname => ?_
      refine (agree_eq _).bind fun extra extra' hextra => .ok (.some ?_)
      subst hname hextra
      rfl

theorem attachItem_agree (hsim : container.registry.IsSimulation R) {item item' : Node}
    (hitem : container.registry.HoldsLike R container.rules item item') :
    Agree (List.Forall₂ Attachment.SameCall) (container.attachItem item).result
      ((container.withNode node).attachItem item').result := by
  rw [result_attachItem, result_attachItem]
  dsimp only
  rw [hitem.admits_eq]
  split
  · have hobjects := forall₂_and_mem hitem.objects
    have hattached := agree_mapM hobjects fun object object' ⟨hlike, hleft, hright⟩ => by
      have hreads : object.ReadsLike [] object' := by
        cases hlike with
        | spacer _ hreads => exact hreads.mono (List.nil_subset _)
        | object _ hrelated => exact hsim.reads hrelated
      exact attachObject_agree h ⟨hitem.reads, hreads, (List.mem_filter.mp hleft).1,
        (List.mem_filter.mp hright).1⟩ hlike
    exact hattached.map fun entries entries' hsame => List.rel_filterMap (fun _ _ => id) hsame
  · rename_i hcount
    rw [hitem.length_eq (Bool.not_eq_true _ ▸ hcount), hitem.reads.className, fault_eq h]
    exact .error _

variable (hsim : container.registry.IsSimulation R)
  (hslots : List.Forall₂ (container.registry.HoldsLike R container.rules)
    (container.rules.slots container.node) (container.rules.slots node))
include hslots

theorem holders_agree : Agree (List.Forall₂ (container.registry.HoldsLike R container.rules))
    container.holders (container.withNode node).holders := by
  unfold ContainerClass.slots at hslots
  unfold holders
  dsimp only
  cases hitems : container.rules.items with
  | none =>
    rw [hitems] at hslots
    exact .ok hslots
  | some itemClass =>
    rw [hitems] at hslots
    have hwrong := rel_find? hslots fun item item' hitem =>
      congrArg (· != itemClass.holder) hitem.reads.className
    dsimp only
    revert hwrong
    generalize List.find? _ _ = wrong
    generalize List.find? _ _ = wrong'
    rintro (hwrong | _)
    · dsimp only
      rw [hwrong.reads.className, fault_eq h]
      exact .error _
    · exact .ok hslots

include hsim in
/-- **A container makes the same calls** wherever it stands. -/
theorem attachAll_agree : Agree (List.Forall₂ Attachment.SameCall) container.attachAll.result
    (container.withNode node).attachAll.result := by
  unfold attachAll
  simp only [Logged.result_bind, Logged.result_liftM, Logged.result_mapM, Logged.result_pure]
  refine (holders_agree h hslots).bind fun slots slots' hslots => ?_
  have hfound := agree_mapM hslots fun item item' => attachItem_agree h hsim
  exact hfound.bind fun found found' hsame => .ok (List.rel_flatten hsame)

end Agree

end Container

/-! ### Levels that are related -/

/-- Related objects have the same name and class, and kids that are again related. -/
structure Registry.KeepsKids (registry : Registry) (R : Node → Node → Prop) : Prop where
  container : ∀ {a b}, R a b → registry.container? a = registry.container? b
  name : ∀ {a b}, R a b → a.name = b.name
  kids : ∀ {a b}, R a b → List.Forall₂ R (registry.kids a) (registry.kids b)

namespace Registry.KeepsKids
variable {registry : Registry} {R : Node → Node → Prop} (h : registry.KeepsKids R)
include h

theorem inside {p q : Pending} (hpq : p.Like R q) :
    List.Forall₂ (Pending.Like R) (registry.inside p) (registry.inside q) := by
  have hkids := h.kids hpq.node
  unfold Registry.inside
  rw [← h.container hpq.node, h.name hpq.node, hpq.parentObject]
  cases registry.container? p.node with
  | none => exact .nil
  | some rules =>
    rw [List.forall₂_map_left_iff, List.forall₂_map_right_iff]
    exact hkids.imp fun _ _ hlike => ⟨hlike, rfl, rfl⟩

/-- Windows with related roots list related objects. -/
theorem listing {a b : Node} (hleft : a.document.WellFormed) (hright : b.document.WellFormed)
    (hroots : List.Forall₂ R (registry.roots a) (registry.roots b)) (windowClass : WindowClass) :
    List.Forall₂ (Pending.Like R) (registry.listing a windowClass)
      (registry.listing b windowClass) := by
  have hpending : List.Forall₂ (Pending.Like R)
      ((topObjects a windowClass).filter registry.adds)
      ((topObjects b windowClass).filter registry.adds) := by
    simp only [topObjects, List.filter_map]
    rw [List.forall₂_map_left_iff, List.forall₂_map_right_iff]
    exact hroots.imp fun _ _ hlike => ⟨hlike, rfl, rfl⟩
  -- The documents may differ in size: both listings go on to the end of the larger one.
  have hdeep := levelOrder_eq_of_le (@generation_inside_eq_nil registry a windowClass hleft)
    (Nat.le_max_left _ b.document.size)
  have hdeep' := levelOrder_eq_of_le (@generation_inside_eq_nil registry b windowClass hright)
    (Nat.le_max_right a.document.size _)
  rw [Registry.listing, Registry.listing, ← hdeep, ← hdeep']
  exact forall₂_levelOrder hpending (fun p q hpq => h.inside hpq) _

end Registry.KeepsKids

/-! ### Adding objects -/

/-- The setters of a widget are called for child elements that are read. -/
theorem Descriptor.tags_of_properties (descriptor : Descriptor) :
    descriptor.properties.map Property.tag ⊆ descriptor.tags := by
  intro tag htag
  cases descriptor with
  | widget w => exact List.mem_cons_of_mem _ (List.mem_append_right _ htag)
  | container c =>
    refine List.mem_cons_of_mem _ (List.mem_append_left _ (List.mem_append_left _ ?_))
    exact List.mem_append_right _ htag
  | custom c => exact List.mem_cons_of_mem _ (List.mem_cons_of_mem _ htag)

/-- A container without items reads as an item what it reads as an object. -/
theorem ContainerClass.itemTags_subset {rules : ContainerClass} {descriptor : Descriptor}
    (hitems : rules.items = none) (hcontainer : descriptor.container? = some rules) :
    rules.itemTags ⊆ descriptor.tags := by
  cases descriptor with
  | container c =>
    cases hcontainer
    intro tag htag
    refine List.mem_cons_of_mem _ (List.mem_append_right _ ?_)
    simpa [hitems] using htag
  | widget w => cases hcontainer
  | custom c => cases hcontainer

/-- The registry reads objects as windows, widgets, items and spacers only. -/
structure Registry.LeavesObjects (registry : Registry) : Prop where
  descriptors : ∀ descriptor ∈ registry.descriptors, "object" ∉ descriptor.tags ∧
    ∀ rules ∈ descriptor.container?, "object" ∉ rules.itemTags
  windows : ∀ windowClass ∈ registry.windows, "object" ∉ windowClass.tags

namespace Registry.LeavesObjects
variable {registry : Registry} (h : registry.LeavesObjects)
include h

theorem descriptor {base : String} {descriptor : Descriptor}
    (hlookup : registry.descriptor? base = some descriptor) : "object" ∉ descriptor.tags ∧
      ∀ rules ∈ descriptor.container?, "object" ∉ rules.itemTags :=
  h.descriptors descriptor (List.mem_of_find?_eq_some hlookup)

theorem window {base : String} {windowClass : WindowClass}
    (hlookup : registry.window? base = some windowClass) : "object" ∉ windowClass.tags :=
  h.windows windowClass (List.mem_of_find?_eq_some hlookup)

end Registry.LeavesObjects

theorem leavesObjects_wxgo : Registry.wxgo.LeavesObjects := ⟨by decide, by decide⟩

namespace Registry.IsSimulation
variable {registry : Registry} {R : Node → Node → Prop} (h : registry.IsSimulation R)
include h

theorem container?_eq {a b : Node} (hab : R a b) :
    registry.container? a = registry.container? b := by
  rw [container?, container?, (h.reads hab).base]

theorem name_eq {a b : Node} (hab : R a b) : a.name = b.name :=
  (h.reads hab).attributeOrEmpty "name"

theorem attachments_agree {p q : Pending} (hpq : p.Like R q) {descriptor : Descriptor}
    (hlookup : registry.descriptor? p.node.base = some descriptor) {name : String}
    {widget : ResolvedWidget} (hwidget : widget.container = descriptor.container?) :
    Agree (List.Forall₂ Attachment.SameCall) (attachments registry p name widget).result
      (attachments registry q name widget).result := by
  unfold attachments
  rw [hpq.parentObject]
  cases hrules : widget.container with
  | none => exact .ok .nil
  | some rules =>
    have hcontainer : registry.container? p.node = some rules := by
      rw [container?, hlookup]
      exact hwidget.symm.trans hrules
    have htags : rules.tags ⊆ descriptor.tags := by
      rw [hwidget] at hrules
      cases descriptor with
      | container c => exact Option.some.inj hrules ▸ List.subset_cons_self _ _
      | widget w => cases hrules
      | custom c => cases hrules
    exact @Container.attachAll_agree R ⟨_, p.node, _, _, _⟩ _
      ((h.reads_tags hpq.node hlookup).mono htags) h (h.slots hpq.node hcontainer)

/-- **Adding one or the other** of two related objects gives the same plan, or the same fault. -/
theorem addObject_eq {p q : Pending} (hpq : p.Like R q) (plan : WindowPlan) :
    addObject registry plan p = addObject registry plan q := by
  have hnode := h.reads hpq.node
  unfold addObject
  simp only [← hnode.base, ← hnode.className, ← hnode.attributeOrEmpty, ← hnode.memberName]
  cases hlookup : registry.descriptor? p.node.base with
  | none => rfl
  | some descriptor =>
    have hreads := h.reads_tags hpq.node hlookup
    have hevents : "events" ∈ descriptor.tags := by cases descriptor <;> exact List.mem_cons_self
    simp only [← hreads.resolve (List.Subset.refl _), ← hreads.eventBindings _ hevents]
    cases hwidget : (descriptor.resolve p.node).result with
    | error fault => rfl
    | ok widget =>
      obtain ⟨hcontainer, hproperties⟩ := Descriptor.parts_of_resolve hwidget
      have htags : widget.properties.map Property.tag ⊆ descriptor.tags := by
        rw [hproperties]
        exact descriptor.tags_of_properties
      simp only [ok_bind, ← hreads.setterCalls _ htags]
      refine bind_congr fun name => ?_
      split
      · rfl
      · refine bind_congr fun properties => bind_congr fun bindings => ?_
        refine ((h.attachments_agree hpq hlookup hcontainer).bind fun attached attached' hsame =>
          ?_).eq
        have hcalls : attached.map Attachment.call = attached'.map Attachment.call :=
          map_eq_map_iff.mpr hsame
        refine .ok ?_
        rw [WindowPlan.extend, WindowPlan.extend, hpq.parentObject, hcalls]

theorem kids {a b : Node} (hab : R a b) : List.Forall₂ R (registry.kids a) (registry.kids b) := by
  unfold Registry.kids
  rw [← h.container?_eq hab]
  cases hrules : registry.container? a with
  | none => exact .nil
  | some rules =>
    simp only [ContainerClass.objectsIn, List.filter_flatMap]
    refine List.rel_flatMap (h.slots hab hrules) fun slot slot' hslot => ?_
    rw [filter_visits, filter_visits]
    -- What is attached but not visited are the spacers.
    have hobjects := hslot.objects
    generalize slot.objects.filter registry.attaches = objects at hobjects ⊢
    generalize slot'.objects.filter registry.attaches = objects' at hobjects ⊢
    induction hobjects with
    | nil => exact .nil
    | cons hlike _ ih =>
      cases hlike with
      | spacer hspacer hreads =>
        have hspacer' := hreads.base ▸ hspacer
        rw [List.filter_cons_of_neg (by simp [hspacer]),
          List.filter_cons_of_neg (by simp [hspacer'])]
        exact ih
      | object hspacer hrelated =>
        have hspacer' := (h.reads hrelated).base ▸ hspacer
        rw [List.filter_cons_of_pos (by simp [hspacer]),
          List.filter_cons_of_pos (by simp [hspacer'])]
        exact .cons hrelated ih

theorem keepsKids : registry.KeepsKids R where
  container := h.container?_eq
  name := h.name_eq
  kids := h.kids

end Registry.IsSimulation

/-! ### Windows -/

theorem Node.ReadsLike.startPlan {a b : Node} {windowClass : WindowClass}
    (h : a.ReadsLike windowClass.tags b) (properties : List SetterCall) :
    startPlan a windowClass properties = startPlan b windowClass properties := by
  rw [GladeGo.startPlan, GladeGo.startPlan, h.className, h.elementText? List.mem_cons_self]

/-- **Windows that are read alike and have related roots** are resolved to the same plan, or to the
same fault. -/
theorem Registry.IsSimulation.resolveWindow_eq {registry : Registry} {R : Node → Node → Prop}
    (h : registry.IsSimulation R) {a b : Node} (hreads : a.ReadsLike [] b)
    (htags : ∀ {windowClass}, registry.window? a.base = some windowClass →
      a.ReadsLike windowClass.tags b)
    (hroots : List.Forall₂ R (registry.roots a) (registry.roots b)) :
    (resolveWindow registry a).result = (resolveWindow registry b).result := by
  unfold resolveWindow
  simp only [← hreads.base, ← hreads.className, ← hreads.attribute?, ← hreads.attributeOrEmpty,
    ← hreads.emptyValue]
  split
  · rfl
  · cases hlookup : registry.window? a.base with
    | none => rfl
    | some windowClass =>
      have hsetters := (htags hlookup).setterCalls none (List.subset_cons_self _ _)
      simp only [Logged.result_bind, Logged.result_log, Logged.result_liftM, ok_bind, ← hsetters]
      refine bind_congr fun setters => ?_
      rw [result_walk_window windowClass hreads.left, result_walk_window windowClass hreads.right,
        (htags hlookup).startPlan]
      have hlisting := h.keepsKids.listing hreads.left hreads.right hroots windowClass
      exact foldlM_congr (hlisting.imp fun p q hpq plan => h.addObject_eq hpq plan) _

end GladeGo
