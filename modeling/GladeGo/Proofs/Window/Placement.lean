import GladeGo.Proofs.Window.Kids
import GladeGo.Window.Walk
import Mathlib.Tactic.SplitIfs

/-! # Placing one object

A visit does two things: it adds an object to the plan (`addObject`) and it finds the objects inside
(`Registry.inside`), which it could have read off the document (`result_visit`). All that a
successful visit adds is a `Placement`; `placements_of_foldlM` says that a plan to which objects
have been added is the plan at the start with their placements. -/

namespace GladeGo

/-- The objects to be visited inside an object that has been. -/
def Registry.inside (registry : Registry) (pending : Pending) : List Pending :=
  match registry.container? pending.node with
  | none => []
  | some rules =>
    (registry.kids pending.node).map fun object =>
      ⟨object, pending.node.name,
        if rules.parentsChildren then some pending.node.name else pending.parentObject⟩

theorem Registry.map_node_inside (registry : Registry) (pending : Pending) :
    (registry.inside pending).map Pending.node = registry.kids pending.node := by
  unfold inside
  cases h : registry.container? pending.node with
  | none => simp [kids, h]
  | some rules => simp [Function.comp_def]

/-- Adds one object to a plan: looks its class up and applies it, checks its name, and adds its
member, construction, setters, bindings and the calls of its container. -/
def addObject (registry : Registry) (plan : WindowPlan) (pending : Pending) :
    Except ResolutionFault WindowPlan :=
  let node := pending.node
  match registry.descriptor? node.base with
  | none => .error (.unknownWidget node.base node.className (node.attributeOrEmpty "name"))
  | some descriptor => do
    let widget ← (descriptor.resolve node).result
    let name ← node.memberName
    if plan.isTaken name then .error (.duplicateMember node.className name plan.name)
    else
      let properties ← setterCalls (some name) node widget.properties
      let bindings ← eventBindings name node
      let attached ← (attachments registry pending name widget).result
      .ok (plan.extend pending name widget properties bindings attached)

/-! ### The parts of a visit -/

/-- The properties of the widgets that a descriptor makes. -/
def Descriptor.properties : Descriptor → List Property
  | .widget w => w.properties
  | .container c => c.properties
  | .custom c => c.properties

theorem WidgetClass.parts_of_resolve {w : WidgetClass} {container : Option ContainerClass}
    {node : Node} {widget : ResolvedWidget} (h : (w.resolve container node).result = .ok widget) :
    widget.container = container ∧ widget.properties = w.properties := by
  simp only [resolve, Logged.result_bind, Logged.result_pure, bind_eq_ok] at h
  obtain ⟨arguments, -, h⟩ := h
  cases h
  exact ⟨rfl, rfl⟩

theorem CustomClass.parts_of_resolve {custom : CustomClass} {node : Node} {widget : ResolvedWidget}
    (h : custom.resolve node = .ok widget) :
    widget.container = none ∧ widget.properties = custom.properties := by
  unfold CustomClass.resolve at h
  dsimp only at h
  split_ifs at h
  all_goals
    obtain ⟨expressions, -, h⟩ := bind_eq_ok.mp h
    cases h
    exact ⟨rfl, rfl⟩

/-- What a descriptor makes of an object has the container and the properties of the descriptor. -/
theorem Descriptor.parts_of_resolve {descriptor : Descriptor} {node : Node}
    {widget : ResolvedWidget} (h : (descriptor.resolve node).result = .ok widget) :
    widget.container = descriptor.container? ∧ widget.properties = descriptor.properties := by
  cases descriptor with
  | widget w => exact WidgetClass.parts_of_resolve h
  | container c => exact WidgetClass.parts_of_resolve h
  | custom c => exact CustomClass.parts_of_resolve h

/-- The container that an object is in its visit. -/
def Pending.container (registry : Registry) (pending : Pending) (rules : ContainerClass) :
    Container :=
  ⟨registry, pending.node, pending.node.name, rules,
    if rules.parentsChildren then some pending.node.name else pending.parentObject⟩

theorem attachments_ok {registry : Registry} {pending : Pending} {widget : ResolvedWidget}
    {attached : List Attachment}
    (h : (attachments registry pending pending.node.name widget).result = .ok attached) :
    (widget.container = none ∧ attached = []) ∨
      ∃ rules, widget.container = some rules ∧
        (pending.container registry rules).attachAll.result = .ok attached := by
  unfold attachments at h
  split at h
  · rename_i hnone
    cases h; exact Or.inl ⟨hnone, rfl⟩
  · rename_i rules hrules
    exact Or.inr ⟨rules, hrules, h⟩

/-- The objects that a visit finds. -/
theorem found_of_attachments {registry : Registry} {pending : Pending} {widget : ResolvedWidget}
    {attached : List Attachment} (hwidget : widget.container = registry.container? pending.node)
    (h : (attachments registry pending pending.node.name widget).result = .ok attached) :
    attached.filterMap Attachment.pending = registry.inside pending := by
  unfold Registry.inside Registry.kids
  rw [← hwidget]
  rcases attachments_ok h with ⟨hnone, rfl⟩ | ⟨rules, hrules, hall⟩
  · rw [hnone]; rfl
  · obtain ⟨-, entries, hentries, rfl⟩ := Container.attachAll_ok hall
    rw [hrules, Container.found_eq hentries, ContainerClass.map_snd_places]
    rfl

/-- **What a visit does.** -/
theorem result_visit (registry : Registry) (plan : WindowPlan) (pending : Pending) :
    (visit registry plan pending).result =
      if registry.isIgnored pending.node.base then .ok (plan, [])
      else (addObject registry plan pending).map fun later => (later, registry.inside pending) := by
  unfold visit addObject
  dsimp only
  split
  · rfl
  cases hlookup : registry.descriptor? pending.node.base with
  | none => rfl
  | some descriptor =>
    simp only [Logged.result_bind, Logged.result_liftM]
    refine bind_eq_map_bind fun widget hresolve => bind_eq_map_bind fun name hname => ?_
    obtain ⟨rfl, -⟩ := Node.memberName_eq_ok_iff.mp hname
    have hwidget : widget.container = registry.container? pending.node := by
      rw [(Descriptor.parts_of_resolve hresolve).1, Registry.container?, hlookup]
      rfl
    split
    · rfl
    · simp only [Logged.result_bind, Logged.result_liftM, Logged.result_log, ok_bind]
      refine bind_eq_map_bind fun properties _ => bind_eq_map_bind fun bindings _ =>
        bind_eq_map_bind fun attached hattached => ?_
      rw [found_of_attachments hwidget hattached]
      rfl

/-! ### Placements -/

/-- The names of the members of a plan. -/
def WindowPlan.names (plan : WindowPlan) : List String := plan.members.map Member.name

theorem WindowPlan.isTaken_eq_false_iff {plan : WindowPlan} {name : String} :
    plan.isTaken name = false ↔ name ≠ plan.selfField ∧ name ∉ plan.names := by
  simp only [isTaken, names, Bool.or_eq_false_iff, beq_eq_false_iff_ne, List.any_eq_false,
    beq_iff_eq, List.mem_map, not_exists, not_and]

/-- An object with all that its visit has computed. -/
structure Placement (registry : Registry) where
  pending : Pending
  descriptor : Descriptor
  widget : ResolvedWidget
  setters : List SetterCall
  bindings : List EventBinding
  attached : List Attachment
  lookup : registry.descriptor? pending.node.base = some descriptor
  resolved : (descriptor.resolve pending.node).result = .ok widget
  name_ne : pending.node.name ≠ ""
  setters_eq : setterCalls (some pending.node.name) pending.node widget.properties = .ok setters
  bindings_eq : eventBindings pending.node.name pending.node = .ok bindings
  attached_eq : (attachments registry pending pending.node.name widget).result = .ok attached

namespace Placement
variable {registry : Registry} (placement : Placement registry)

/-- The name of the member. -/
def name : String := placement.pending.node.name

/-- The member that the object becomes. -/
def member : Member := ⟨placement.name, placement.widget.typeName⟩

/-- The construction of the member. -/
def construction : Construction :=
  ⟨placement.name, placement.widget.constructor, placement.widget.arguments,
    placement.widget.needsParent, placement.pending.parentObject⟩

/-- The calls that attach the objects inside. -/
def calls : List LayoutCall := placement.attached.map Attachment.call

theorem container_eq : placement.widget.container = registry.container? placement.pending.node := by
  rw [(Descriptor.parts_of_resolve placement.resolved).1, Registry.container?, placement.lookup]
  rfl

end Placement

/-- The plan with one more object. -/
def WindowPlan.add {registry : Registry} (plan : WindowPlan) (placement : Placement registry) :
    WindowPlan :=
  plan.extend placement.pending placement.name placement.widget placement.setters placement.bindings
    placement.attached

theorem addObject_ok {registry : Registry} {plan later : WindowPlan} {pending : Pending}
    (h : addObject registry plan pending = .ok later) :
    ∃ placement : Placement registry, placement.pending = pending ∧
      plan.isTaken placement.name = false ∧ later = plan.add placement := by
  unfold addObject at h
  dsimp only at h
  cases hlookup : registry.descriptor? pending.node.base with
  | none => rw [hlookup] at h; cases h
  | some descriptor =>
    simp only [hlookup, bind_eq_ok, Node.memberName_eq_ok_iff] at h
    obtain ⟨widget, hwidget, name, ⟨rfl, hname⟩, h⟩ := h
    split at h
    · cases h
    · rename_i htaken
      simp only [bind_eq_ok] at h
      obtain ⟨setters, hsetters, bindings, hbindings, attached, hattached, h⟩ := h
      cases h
      exact ⟨⟨pending, descriptor, widget, setters, bindings, attached, hlookup, hwidget, hname,
        hsetters, hbindings, hattached⟩, rfl, (Bool.not_eq_true _).mp htaken, rfl⟩

theorem addObject_eq_add {registry : Registry} {plan : WindowPlan}
    (placement : Placement registry) (hfree : plan.isTaken placement.name = false) :
    addObject registry plan placement.pending = .ok (plan.add placement) := by
  have hmember : placement.pending.node.memberName = .ok placement.pending.node.name :=
    Node.memberName_eq_ok_iff.mpr ⟨rfl, placement.name_ne⟩
  have hfree' : plan.isTaken placement.pending.node.name = false := hfree
  simp only [addObject, placement.lookup, placement.resolved, hmember, hfree',
    placement.setters_eq, placement.bindings_eq, placement.attached_eq, ok_bind,
    Bool.false_eq_true, if_false]
  rfl

/-- **Adding objects one after the other** gives the plan with their placements, under names that
are free. -/
theorem placements_of_foldlM {registry : Registry} {plan later : WindowPlan}
    {pendings : List Pending} (h : pendings.foldlM (addObject registry) plan = .ok later) :
    ∃ placements : List (Placement registry), placements.map Placement.pending = pendings ∧
      later = placements.foldl WindowPlan.add plan ∧ (placements.map Placement.name).Nodup ∧
      ∀ placement ∈ placements, plan.isTaken placement.name = false := by
  induction pendings generalizing plan with
  | nil => cases h; exact ⟨[], rfl, rfl, List.nodup_nil, by simp⟩
  | cons pending pendings ih =>
    rw [List.foldlM_cons, bind_eq_ok] at h
    obtain ⟨next, hnext, h⟩ := h
    obtain ⟨placement, rfl, htaken, rfl⟩ := addObject_ok hnext
    obtain ⟨placements, rfl, rfl, hnodup, hfree⟩ := ih h
    have hfree' : ∀ other ∈ placements,
        plan.isTaken other.name = false ∧ other.name ≠ placement.name := by
      intro other hother
      have := hfree other hother
      simp only [WindowPlan.isTaken_eq_false_iff, WindowPlan.names, WindowPlan.add,
        WindowPlan.extend, List.map_append, List.mem_append, not_or] at this ⊢
      exact ⟨⟨this.1, this.2.1⟩, by simpa using this.2.2⟩
    refine ⟨placement :: placements, rfl, rfl, ?_, ?_⟩
    · refine List.nodup_cons.mpr ⟨fun hmem => ?_, hnodup⟩
      obtain ⟨other, hother, heq⟩ := List.mem_map.mp hmem
      exact (hfree' other hother).2 heq
    · exact List.forall_mem_cons.mpr ⟨htaken, fun other hother => (hfree' other hother).1⟩

/-! ### The plan with some placements -/

section Fold
variable {registry : Registry} (placements : List (Placement registry)) (plan : WindowPlan)

theorem members_foldl : (placements.foldl WindowPlan.add plan).members =
    plan.members ++ placements.map Placement.member := by
  rw [List.map_eq_flatMap]
  exact foldl_append_eq (fun _ _ => rfl) _ _

theorem constructions_foldl : (placements.foldl WindowPlan.add plan).constructions =
    plan.constructions ++ placements.map Placement.construction := by
  rw [List.map_eq_flatMap]
  exact foldl_append_eq (fun _ _ => rfl) _ _

theorem properties_foldl : (placements.foldl WindowPlan.add plan).properties =
    plan.properties ++ placements.flatMap Placement.setters :=
  foldl_append_eq (fun _ _ => rfl) _ _

theorem layout_foldl : (placements.foldl WindowPlan.add plan).layout =
    plan.layout ++ placements.flatMap Placement.calls :=
  foldl_append_eq (fun _ _ => rfl) _ _

theorem bindings_foldl : (placements.foldl WindowPlan.add plan).bindings =
    plan.bindings ++ placements.flatMap Placement.bindings :=
  foldl_append_eq (fun _ _ => rfl) _ _

/-- What no placement changes is as it was. -/
theorem constant_foldl {β : Type} {part : WindowPlan → β}
    (hpart : ∀ (plan : WindowPlan) (placement : Placement registry),
      part (plan.add placement) = part plan) :
    part (placements.foldl WindowPlan.add plan) = part plan := by
  induction placements generalizing plan with
  | nil => rfl
  | cons placement placements ih => exact (ih (plan.add placement)).trans (hpart plan placement)

theorem selfField_foldl :
    (placements.foldl WindowPlan.add plan).selfField = plan.selfField :=
  constant_foldl placements plan fun _ _ => rfl

/-- The names that are taken are those from before and those of the placements. -/
theorem isTaken_foldl {name : String} :
    (placements.foldl WindowPlan.add plan).isTaken name = true ↔
      plan.isTaken name = true ∨ ∃ placement ∈ placements, placement.name = name := by
  have hmembers := members_foldl placements plan
  have hself := selfField_foldl placements plan
  simp only [WindowPlan.isTaken, hmembers, hself, List.any_append, List.any_map, Bool.or_eq_true,
    List.any_eq_true, Function.comp_apply, Placement.member, beq_iff_eq]
  exact (or_assoc).symm

/-- The sizer is the first container among the objects, if the window had none. -/
theorem sizerField_foldl : (placements.foldl WindowPlan.add plan).sizerField =
    (plan.sizerField <|>
      (placements.find? fun p => p.widget.container.isSome).map Placement.name) := by
  induction placements generalizing plan with
  | nil => simp
  | cons placement placements ih =>
    rw [List.foldl_cons, ih, List.find?_cons]
    have hadd : (plan.add placement).sizerField = (plan.sizerField <|>
        if placement.widget.container.isSome then some placement.name else none) := rfl
    rw [hadd]
    cases plan.sizerField <;> cases placement.widget.container.isSome <;> simp

end Fold

end GladeGo
