import GladeGo.Proofs.Run
import GladeGo.Window.Attach

/-! # The objects in a container

`kids` reads off the document which objects a container has to be visited: those in its slots that
are neither spacers nor passed over. The calls of a container are described object by object
(`Attached`), and `attachAll_ok` says that attaching all objects gives one entry for each object in
the slots, in document order. So the objects that it finds are the kids (`found_eq`), and it makes a
call for each kid and each spacer (`calls_attach`). -/

namespace GladeGo

/-- The name that an object gives itself. -/
def Node.name (node : Node) : String := node.attributeOrEmpty "name"

theorem Node.memberName_eq_ok_iff {node : Node} {name : String} :
    node.memberName = .ok name ↔ node.name = name ∧ name ≠ "" := by
  unfold Node.memberName Node.name Node.attributeOrEmpty
  cases node.attribute? "name" with
  | none => simp [eq_comm]
  | some value =>
    by_cases hvalue : value = ""
    · simp only [hvalue, if_true, Option.getD_some]
      exact ⟨fun h => (nomatch h), fun ⟨h, hname⟩ => absurd h.symm hname⟩
    · simp only [hvalue, if_false, Option.getD_some, Except.ok.injEq]
      exact ⟨fun h => ⟨h, h ▸ hvalue⟩, And.left⟩

/-! ### Slots and kids -/

namespace ContainerClass

/-- The elements that hold the objects of a container: the container itself, or its items without
the placeholders. -/
def slots (rules : ContainerClass) (node : Node) : List Node :=
  match rules.items with
  | none => [node]
  | some items => node.objects.filter fun item => some item.className != items.placeholder

/-- The objects of a container, each with the slot that holds it. -/
def places (rules : ContainerClass) (node : Node) : List (Node × Node) :=
  (rules.slots node).flatMap fun slot => slot.objects.map fun object => (slot, object)

/-- The objects of a container. -/
def objectsIn (rules : ContainerClass) (node : Node) : List Node :=
  (rules.slots node).flatMap Node.objects

theorem map_snd_places (rules : ContainerClass) (node : Node) :
    (rules.places node).map Prod.snd = rules.objectsIn node := by
  simp [places, objectsIn, List.map_flatMap, List.map_map, Function.comp_def]

end ContainerClass

namespace Registry

/-- The class of a node if that is a container class. -/
def container? (registry : Registry) (node : Node) : Option ContainerClass :=
  (registry.descriptor? node.base).bind Descriptor.container?

/-- Whether an object in a container is visited: it is neither a spacer nor passed over. -/
def visits (registry : Registry) (object : Node) : Bool :=
  !registry.isSpacer object.base && !registry.isIgnored object.base

/-- Whether an object in a container gets a call: it is a spacer or not passed over. -/
def attaches (registry : Registry) (object : Node) : Bool :=
  registry.isSpacer object.base || !registry.isIgnored object.base

/-- What an object is attached as: a spacer as a number, another object as the member of its
name. -/
def AttachesAs (registry : Registry) (object : Node) (child : LayoutChild) : Prop :=
  if registry.isSpacer object.base then ∃ number, child = .literal (Text.showInt number)
  else child = .member object.name

theorem attachesAs_of_spacer {registry : Registry} {object : Node} {child : LayoutChild}
    (h : registry.isSpacer object.base = true) :
    registry.AttachesAs object child ↔ ∃ number, child = .literal (Text.showInt number) := by
  unfold AttachesAs
  rw [if_pos h]

theorem attachesAs_of_not_spacer {registry : Registry} {object : Node} {child : LayoutChild}
    (h : registry.isSpacer object.base = false) :
    registry.AttachesAs object child ↔ child = .member object.name := by
  unfold AttachesAs
  rw [if_neg (by simp [h])]

/-- The objects in a node that are to be visited after it, in document order. -/
def kids (registry : Registry) (node : Node) : List Node :=
  match registry.container? node with
  | none => []
  | some rules => (rules.objectsIn node).filter registry.visits

theorem mem_kids {registry : Registry} {node object : Node} : object ∈ registry.kids node ↔
    ∃ rules, registry.container? node = some rules ∧ object ∈ rules.objectsIn node ∧
      registry.visits object = true := by
  unfold kids
  cases registry.container? node <;> simp

theorem filter_visits (registry : Registry) (objects : List Node) :
    objects.filter registry.visits =
      (objects.filter registry.attaches).filter fun object => !registry.isSpacer object.base := by
  rw [List.filter_filter]
  refine List.filter_congr fun object _ => ?_
  unfold visits attaches
  cases registry.isSpacer object.base <;> simp

theorem not_ignored_of_visits {registry : Registry} {object : Node}
    (h : registry.visits object = true) : registry.isIgnored object.base = false := by
  simp only [visits, Bool.and_eq_true, Bool.not_eq_true'] at h
  exact h.2

end Registry

/-! ### What attaching one object gives -/

namespace Container

variable (container : Container)

/-- An object of the container as it waits to be visited. -/
def pending (object : Node) : Pending := ⟨object, container.name, container.childParent⟩

/-- What attaching an object that stands in `slot` gives, by the three kinds of objects. -/
inductive Attached (slot object : Node) : Option Attachment → Prop
  | spacer {call : LayoutCall} (hspacer : container.registry.isSpacer object.base = true)
      (hcall : container.spacerCall slot object = .ok call) :
      Attached slot object (some ⟨call, none⟩)
  | ignored (hspacer : container.registry.isSpacer object.base = false)
      (hignored : container.registry.isIgnored object.base = true) : Attached slot object none
  | member {extra : Option String} (hvisits : container.registry.visits object = true)
      (hname : object.name ≠ "")
      (hextra : (renderArguments container.rules.itemArguments ⟨slot, some object⟩).result =
        .ok extra) :
      Attached slot object (some ⟨⟨container.name, .member object.name, extra,
        container.rules.addMethod⟩, some (container.pending object)⟩)

variable {container} {slot object : Node} {entry : Option Attachment}

theorem attachObject_ok (h : (container.attachObject slot object).result = .ok entry) :
    container.Attached slot object entry := by
  unfold attachObject at h
  simp only at h
  split at h
  · rename_i hspacer
    simp only [Logged.result_bind, bind_eq_ok, Logged.result_liftM, Logged.result_log,
      Logged.result_pure] at h
    obtain ⟨call, hcall, -, -, h⟩ := h
    cases h
    exact .spacer hspacer hcall
  · rename_i hspacer
    rw [Bool.not_eq_true] at hspacer
    split at h
    · rename_i hignored
      cases h
      exact .ignored hspacer hignored
    · rename_i hignored
      rw [Bool.not_eq_true] at hignored
      simp only [Logged.result_bind, bind_eq_ok, Logged.result_liftM, Logged.result_log,
        Logged.result_pure, Node.memberName_eq_ok_iff] at h
      obtain ⟨name, ⟨rfl, hname⟩, extra, hextra, -, -, h⟩ := h
      cases h
      exact .member (by simp [Registry.visits, hspacer, hignored]) hname hextra

/-- What attaching a spacer gives. -/
theorem result_attachObject_of_spacer
    (hspacer : container.registry.isSpacer object.base = true) :
    (container.attachObject slot object).result =
      (container.spacerCall slot object).map fun call => some ⟨call, none⟩ := by
  simp only [attachObject, hspacer, if_true, Logged.result_bind, Logged.result_liftM,
    Logged.result_log, Logged.result_pure]
  cases container.spacerCall slot object <;> rfl

/-- What attaching an object gives that is to be visited. -/
theorem result_attachObject_of_visits (hvisits : container.registry.visits object = true)
    (hname : object.name ≠ "") : (container.attachObject slot object).result =
      (renderArguments container.rules.itemArguments ⟨slot, some object⟩).result.map fun extra =>
        some ⟨⟨container.name, .member object.name, extra, container.rules.addMethod⟩,
          some (container.pending object)⟩ := by
  simp only [Registry.visits, Bool.and_eq_true, Bool.not_eq_true'] at hvisits
  have hmember : object.memberName = .ok object.name :=
    Node.memberName_eq_ok_iff.mpr ⟨rfl, hname⟩
  simp only [attachObject, hvisits, Bool.false_eq_true, if_false, Logged.result_bind,
    Logged.result_liftM, Logged.result_log, Logged.result_pure, hmember, ok_bind]
  cases (renderArguments container.rules.itemArguments ⟨slot, some object⟩).result <;> rfl

theorem spacerCall_ok {call : LayoutCall} (h : container.spacerCall slot object = .ok call) :
    call.parent = container.name ∧ call.extra = none ∧
      ∃ number, call.child = .literal (Text.showInt number) := by
  unfold spacerCall at h
  split at h
  · cases h
  · simp only [bind_eq_ok] at h
    obtain ⟨proportion, -, h⟩ := h
    split at h
    · cases h; exact ⟨rfl, rfl, proportion, rfl⟩
    · simp only [bind_eq_ok] at h
      obtain ⟨extent, -, h⟩ := h
      cases h; exact ⟨rfl, rfl, extent, rfl⟩

/-- A call of the container that attaches an object. -/
def Calls (container : Container) (object : Node) (call : LayoutCall) : Prop :=
  call.parent = container.name ∧ container.registry.AttachesAs object call.child

theorem Attached.calls (h : container.Attached slot object entry) :
    List.Forall₂ container.Calls ([object].filter container.registry.attaches)
      (entry.toList.map Attachment.call) := by
  cases h with
  | spacer hspacer hcall =>
    obtain ⟨hparent, -, hchild⟩ := spacerCall_ok hcall
    simp only [Registry.attaches, hspacer, Bool.true_or, List.filter_cons_of_pos, List.filter_nil]
    exact .cons ⟨hparent, (Registry.attachesAs_of_spacer hspacer).mpr hchild⟩ .nil
  | ignored hspacer hignored => simp [Registry.attaches, hspacer, hignored]
  | member hvisits hname hextra =>
    simp only [Registry.visits, Bool.and_eq_true, Bool.not_eq_true'] at hvisits
    simp only [Registry.attaches, hvisits.2, Bool.not_false, Bool.or_true,
      List.filter_cons_of_pos, List.filter_nil]
    exact .cons ⟨rfl, (Registry.attachesAs_of_not_spacer hvisits.1).mpr rfl⟩ .nil

theorem Attached.found (h : container.Attached slot object entry) :
    entry.toList.filterMap Attachment.pending =
      ([object].filter container.registry.visits).map container.pending := by
  cases h with
  | spacer hspacer hcall => simp [Registry.visits, hspacer]
  | ignored hspacer hignored => simp [Registry.visits, hignored]
  | member hvisits hname hextra => simp [hvisits]

/-! ### What attaching all objects gives -/

/-- The slots of a container are its items, as many objects in each as its class allows. -/
structure WellFilled (container : Container) : Prop where
  holder : ∀ items ∈ container.rules.items, ∀ slot ∈ container.rules.slots container.node,
    slot.className = items.holder
  count : ∀ slot ∈ container.rules.slots container.node,
    container.rules.cardinality.admits slot.objects.length = true

theorem holders_ok {holders : List Node} (h : container.holders = .ok holders) :
    holders = container.rules.slots container.node ∧
      ∀ items ∈ container.rules.items, ∀ slot ∈ container.rules.slots container.node,
        slot.className = items.holder := by
  unfold Container.holders at h
  unfold ContainerClass.slots
  cases hitems : container.rules.items with
  | none => rw [hitems] at h; cases h; exact ⟨rfl, by simp⟩
  | some items =>
    simp only [hitems] at h
    split at h
    · cases h
    · rename_i hfind
      cases h
      refine ⟨rfl, fun items' hitems' slot hslot => ?_⟩
      obtain rfl : items = items' := by simpa using hitems'
      simpa using List.find?_eq_none.mp hfind slot hslot

theorem holders_of_class {items : ItemClass} (hitems : container.rules.items = some items)
    (h : ∀ slot ∈ container.rules.slots container.node, slot.className = items.holder) :
    container.holders = .ok (container.rules.slots container.node) := by
  unfold ContainerClass.slots at h ⊢
  simp only [hitems] at h
  have hfind : (container.node.objects.filter fun item =>
      some item.className != items.placeholder).find?
        (fun item => item.className != items.holder) = none :=
    List.find?_eq_none.mpr fun slot hslot => by simpa using h slot hslot
  simp only [holders, hitems, hfind]

theorem attachItem_ok {attached : List Attachment}
    (h : (container.attachItem slot).result = .ok attached) :
    container.rules.cardinality.admits slot.objects.length = true ∧ ∃ entries,
      List.Forall₂ (fun object => container.Attached slot object) slot.objects entries ∧
      attached = entries.filterMap id := by
  unfold attachItem at h
  simp only at h
  split at h
  · rename_i hcount
    simp only [Logged.result_bind, Logged.result_mapM, Logged.result_pure, bind_eq_ok,
      mapM_eq_ok_iff] at h
    obtain ⟨entries, hentries, h⟩ := h
    cases h
    exact ⟨hcount, entries, hentries.imp fun _ _ => attachObject_ok, rfl⟩
  · cases h

/-- An item with as many objects as there may be attaches one after the other. -/
theorem result_attachItem_of_admits
    (h : container.rules.cardinality.admits slot.objects.length = true) :
    (container.attachItem slot).result = (slot.objects.mapM fun object =>
      (container.attachObject slot object).result).map (List.filterMap id) := by
  simp only [attachItem, h, if_true, Logged.result_bind, Logged.result_mapM, Logged.result_pure]
  cases slot.objects.mapM fun object => (container.attachObject slot object).result <;> rfl

/-- A container without items is its own item. -/
theorem result_attachAll_of_no_items (h : container.rules.items = none) :
    container.attachAll.result = (container.attachItem container.node).result := by
  have hholders : container.holders = .ok [container.node] := by rw [holders, h]
  simp only [attachAll, Logged.result_bind, Logged.result_liftM, Logged.result_pure, hholders,
    ok_bind, List.mapM_cons, List.mapM_nil]
  cases (container.attachItem container.node).result with
  | error fault => rfl
  | ok attached => simp [ok_bind]

/-- **Attaching the objects of a container** gives one entry for each of them, in document order. -/
theorem attachAll_ok {attached : List Attachment}
    (h : container.attachAll.result = .ok attached) :
    container.WellFilled ∧ ∃ entries,
      List.Forall₂ (fun place => container.Attached place.1 place.2)
        (container.rules.places container.node) entries ∧
      attached = entries.filterMap id := by
  unfold attachAll at h
  simp only [Logged.result_bind, Logged.result_liftM, Logged.result_mapM, Logged.result_pure,
    bind_eq_ok, mapM_eq_ok_iff] at h
  obtain ⟨holders, hholders, lists, hlists, h⟩ := h
  cases h
  obtain ⟨rfl, hholder⟩ := holders_ok hholders
  unfold ContainerClass.places
  refine ⟨⟨hholder, fun slot hslot => ?_⟩, ?_⟩
  · obtain ⟨attached, -, hattached⟩ := exists_of_mem_left hlists hslot
    exact (attachItem_ok hattached).1
  · clear hholders hholder
    generalize container.rules.slots container.node = slots at hlists ⊢
    induction hlists with
    | nil => exact ⟨[], .nil, rfl⟩
    | cons hslot _ ih =>
      obtain ⟨-, first, hfirst, rfl⟩ := attachItem_ok hslot
      obtain ⟨rest, hrest, hflatten⟩ := ih
      refine ⟨first ++ rest, ?_, by simp [hflatten]⟩
      rw [List.flatMap_cons]
      refine List.rel_append ?_ hrest
      rw [List.forall₂_map_left_iff]
      exact hfirst

/-- The objects found are the ones to be visited, in document order. -/
theorem found_eq {entries : List (Option Attachment)} {places : List (Node × Node)}
    (h : List.Forall₂ (fun place => container.Attached place.1 place.2) places entries) :
    (entries.filterMap id).filterMap Attachment.pending =
      ((places.map Prod.snd).filter container.registry.visits).map container.pending := by
  induction h with
  | nil => rfl
  | @cons place entry places entries hentry _ ih =>
    have hsplit : (entry :: entries).filterMap id = entry.toList ++ entries.filterMap id := by
      cases entry <;> rfl
    rw [hsplit, List.filterMap_append, hentry.found, ih, ← List.map_append, ← List.filter_append]
    rfl

/-- The calls attach the spacers and the objects to be visited, in document order. -/
theorem calls_attach {entries : List (Option Attachment)} {places : List (Node × Node)}
    (h : List.Forall₂ (fun place => container.Attached place.1 place.2) places entries) :
    List.Forall₂ container.Calls ((places.map Prod.snd).filter container.registry.attaches)
      ((entries.filterMap id).map Attachment.call) := by
  induction h with
  | nil => exact .nil
  | @cons place entry places entries hentry _ ih =>
    have hsplit : (entry :: entries).filterMap id = entry.toList ++ entries.filterMap id := by
      cases entry <;> rfl
    rw [hsplit, List.map_append, List.map_cons, ← List.singleton_append, List.filter_append]
    exact List.rel_append hentry.calls ih

end Container

end GladeGo
