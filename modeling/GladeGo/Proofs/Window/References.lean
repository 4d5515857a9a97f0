import GladeGo.Proofs.Window.Layout
import GladeGo.Proofs.Window.Parents

/-! # The names in a plan

A plan refers to its members by name: in its constructions, setters, bindings and calls, and as its
sizer. A call names an object before the walk comes to it, so that no reference dangles is a matter
of the whole plan (`IsClosed`): what a container attaches is a kid of it and becomes a member. -/

namespace GladeGo

/-- The names of the members of a plan are usable, and the plan refers to nothing else. -/
structure WindowPlan.IsClosed (plan : WindowPlan) : Prop where
  name_ne : "" ∉ plan.names
  nodup : plan.names.Nodup
  selfField : plan.selfField ∉ plan.names
  constructions : plan.constructions.map Construction.field = plan.names
  sizer : ∀ name ∈ plan.sizerField, name ∈ plan.names
  layoutParent : ∀ call ∈ plan.layout, call.parent ∈ plan.names
  layoutChild : ∀ call ∈ plan.layout, ∀ name, call.child = .member name → name ∈ plan.names
  setters : ∀ setter ∈ plan.properties, ∀ name ∈ setter.field, name ∈ plan.names
  bindings : ∀ binding ∈ plan.bindings, binding.field ∈ plan.names
  parents : ∀ construction ∈ plan.constructions, ∀ name ∈ construction.parent, name ∈ plan.names

/-! ### The fields of setters and bindings -/

theorem field_of_setterCalls {field : Option String} {node : Node} {properties : List Property}
    {calls : List SetterCall} (h : setterCalls field node properties = .ok calls)
    {call : SetterCall} (hcall : call ∈ calls) : call.field = field := by
  unfold setterCalls at h
  simp only [bind_eq_ok, mapM_eq_ok_iff] at h
  obtain ⟨entries, hentries, h⟩ := h
  cases h
  obtain ⟨entry, hentry, heq⟩ := List.mem_filterMap.mp hcall
  obtain ⟨property, -, hproperty⟩ := exists_of_mem_left hentries.flip hentry
  obtain rfl : entry = some call := heq
  split at hproperty
  · cases hproperty
  · obtain ⟨value, -, hvalue⟩ := bind_eq_ok.mp hproperty
    cases hvalue
    rfl

theorem field_of_eventBindings {field : String} {node : Node} {bindings : List EventBinding}
    (h : eventBindings field node = .ok bindings) {binding : EventBinding}
    (hbinding : binding ∈ bindings) : binding.field = field := by
  obtain ⟨handler, -, hhandler⟩ := exists_of_mem_left (mapM_eq_ok_iff.mp h).flip hbinding
  unfold eventBinding at hhandler
  dsimp only at hhandler
  split at hhandler
  · exact nomatch hhandler
  · rw [← Except.ok.inj hhandler]

/-! ### The references of a plan -/

namespace Resolution
variable {registry : Registry} {window : Node} {plan : WindowPlan} {name : String}
  (resolution : Resolution registry window plan)
include resolution

theorem names_eq_placements : plan.names = resolution.placements.map Placement.name :=
  resolution.plan_names_eq.trans resolution.names_eq.symm

theorem name_mem_names {placement : Placement registry} (h : placement ∈ resolution.placements) :
    placement.name ∈ plan.names := by
  rw [resolution.names_eq_placements]
  exact List.mem_map_of_mem h

theorem name_mem_names_of_member {member : Node} (h : member ∈ registry.members window) :
    member.name ∈ plan.names := by
  rw [resolution.plan_names_eq]
  exact List.mem_map_of_mem h

theorem exists_placement_of_name (h : name ∈ plan.names) :
    ∃ placement ∈ resolution.placements, placement.name = name := by
  rw [resolution.names_eq_placements] at h
  exact List.mem_map.mp h

theorem mem_names_of_sizer (h : plan.sizerField = some name) : name ∈ plan.names := by
  rw [resolution.sizerField_eq] at h
  obtain ⟨placement, hplacement, rfl⟩ := Option.map_eq_some_iff.mp h
  exact resolution.name_mem_names (List.mem_of_find?_eq_some hplacement)

theorem mem_names_of_layoutParent {call : LayoutCall} (h : call ∈ plan.layout) :
    call.parent ∈ plan.names := by
  rw [resolution.layout_eq] at h
  obtain ⟨placement, hplacement, hcall⟩ := List.mem_flatMap.mp h
  rw [placement.parent_of_mem_calls hcall]
  exact resolution.name_mem_names hplacement

/-- What a call attaches is the name of an object below the first level. -/
theorem mem_names_of_layoutChild (hwf : window.document.WellFormed) {call : LayoutCall}
    (h : call ∈ plan.layout) (hchild : call.child = .member name) : name ∈ plan.names := by
  have hname : name ∈ plan.layout.filterMap LayoutCall.member? :=
    List.mem_filterMap.mpr ⟨call, h, LayoutCall.member?_eq_some_iff.mpr hchild⟩
  rw [resolution.members_layout] at hname
  obtain ⟨object, hobject, rfl⟩ := List.mem_map.mp hname
  exact resolution.name_mem_names_of_member (mem_members_of_mem_deeper hwf hobject)

theorem mem_names_of_setter {call : SetterCall} (h : call ∈ plan.properties)
    (hfield : call.field = some name) : name ∈ plan.names := by
  rw [resolution.properties_eq] at h
  rcases List.mem_append.mp h with hwindow | hobject
  · rw [field_of_setterCalls resolution.setters_eq hwindow] at hfield
    cases hfield
  · obtain ⟨placement, hplacement, hcall⟩ := List.mem_flatMap.mp hobject
    rw [field_of_setterCalls placement.setters_eq hcall] at hfield
    cases hfield
    exact resolution.name_mem_names hplacement

theorem mem_names_of_binding {binding : EventBinding} (h : binding ∈ plan.bindings) :
    binding.field ∈ plan.names := by
  rw [resolution.bindings_eq] at h
  obtain ⟨placement, hplacement, hbinding⟩ := List.mem_flatMap.mp h
  rw [field_of_eventBindings placement.bindings_eq hbinding]
  exact resolution.name_mem_names hplacement

theorem mem_names_of_parent (hwf : window.document.WellFormed) {construction : Construction}
    (h : construction ∈ plan.constructions) (hparent : construction.parent = some name) :
    name ∈ plan.names := by
  rw [resolution.constructions_eq] at h
  obtain ⟨placement, hplacement, rfl⟩ := List.mem_map.mp h
  rw [resolution.parent_eq hwf hplacement] at hparent
  obtain ⟨above, habove, rfl⟩ := Option.map_eq_some_iff.mp hparent
  exact resolution.name_mem_names_of_member (mem_members_of_parentMember habove)

end Resolution

/-- **No reference of a plan dangles**: the members have distinct names that are not empty nor the
name of the window's own field, each is constructed once, in the order of the members, and all that
the plan names is one of them. -/
theorem isClosed_of_resolveWindow {registry : Registry} {window : Node} {text : String}
    {plan : WindowPlan} (hparse : Document.parse text = .ok window.document)
    (hplan : (resolveWindow registry window).result = .ok plan) : plan.IsClosed := by
  have hwf := Document.wellFormed_of_parse hparse
  obtain ⟨resolution⟩ := exists_resolution hwf hplan
  constructor
  case name_ne =>
    intro h
    obtain ⟨placement, -, hname⟩ := resolution.exists_placement_of_name h
    exact placement.name_ne hname
  case nodup =>
    rw [resolution.names_eq_placements]
    exact resolution.nodup
  case selfField =>
    intro h
    obtain ⟨placement, hplacement, hname⟩ := resolution.exists_placement_of_name h
    exact resolution.name_ne placement hplacement (hname.trans resolution.selfField_eq)
  case constructions =>
    rw [resolution.names_eq_placements, resolution.constructions_eq, List.map_map]
    rfl
  case sizer => exact fun name h => resolution.mem_names_of_sizer h
  case layoutParent => exact fun call h => resolution.mem_names_of_layoutParent h
  case layoutChild =>
    exact fun call h name hchild => resolution.mem_names_of_layoutChild hwf h hchild
  case setters => exact fun call h name hfield => resolution.mem_names_of_setter h hfield
  case bindings => exact fun binding h => resolution.mem_names_of_binding h
  case parents => exact fun call h name hparent => resolution.mem_names_of_parent hwf h hparent

theorem isClosed_of_resolveWindow_sampleWindow : ∃ plan : WindowPlan,
    (resolveWindow .wxgo sampleWindow).result = .ok plan ∧ plan.IsClosed := by
  obtain ⟨plan, hplan⟩ := resolveWindow_sampleWindow
  exact ⟨plan, hplan, isClosed_of_resolveWindow parse_sampleText hplan⟩

end GladeGo
