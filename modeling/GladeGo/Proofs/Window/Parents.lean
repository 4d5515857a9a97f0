import GladeGo.Proofs.Window.Resolution

/-! # The parents of constructions

The parent that a walk hands down is a matter of the document: it is the nearest member around the
object whose class takes the objects in it as its children (`parentMember`). The items around an
object are no members, so between the object and its container there is nothing to be found. A
parent stands on an earlier level than the object, so it is constructed before
(`mem_before_of_parentMember`). -/

namespace GladeGo

/-- Whether the objects in a node are constructed in it. -/
def Registry.reparents (registry : Registry) (node : Node) : Bool :=
  (registry.container? node).any ContainerClass.parentsChildren

/-- The member that an object of a window is constructed in: the nearest one around it that takes
the objects in it as its children. -/
def Registry.parentMember (registry : Registry) (window object : Node) : Option Node :=
  (Node.ancestorsWithin window object).find? fun above =>
    decide (above ∈ registry.members window) && registry.reparents above

section Members
variable {registry : Registry} {window object container : Node}

theorem mem_members_of_parentMember {above : Node}
    (h : registry.parentMember window object = some above) : above ∈ registry.members window := by
  have := List.find?_some h
  simp only [Bool.and_eq_true, decide_eq_true_eq] at this
  exact this.1

variable (hwf : window.document.WellFormed)
include hwf

theorem parentMember_of_mem_objects (h : object ∈ window.objects) :
    registry.parentMember window object = none := by
  have hobject : object.document.WellFormed := Node.document_of_mem_objects hwf h ▸ hwf
  rw [Registry.parentMember,
    Node.ancestorsWithin_window hobject (Node.parent_of_mem_objects hwf h)]
  rfl

/-- The nearest member around a kid is its container, or the nearest one around that. -/
theorem parentMember_of_mem_kids (hcontainer : container ∈ registry.members window)
    (h : object ∈ registry.kids container) :
    registry.parentMember window object =
      if registry.reparents container then some container
      else registry.parentMember window container := by
  have hwf' := wellFormed_of_mem_members hwf hcontainer
  have hobject := wellFormed_of_mem_members hwf (mem_members_of_mem_kids hwf hcontainer h)
  have hlt := window_lt_of_mem_members hwf hcontainer
  have hstep : ∀ list : List Node, (container :: list).find? (fun above =>
      decide (above ∈ registry.members window) && registry.reparents above) =
      if registry.reparents container then some container
      else list.find? fun above =>
        decide (above ∈ registry.members window) && registry.reparents above := by
    intro list
    rw [List.find?_cons, decide_eq_true hcontainer, Bool.true_and]
    cases registry.reparents container <;> rfl
  obtain ⟨rules, hrules, ⟨-, hparent⟩ | ⟨hitems, item, hparent, habove⟩⟩ :=
    parent_of_mem_kids hwf' h
  · rw [Registry.parentMember,
      Node.ancestorsWithin_of_parent hobject hparent (Nat.ne_of_gt hlt), hstep]
    rfl
  · have hitem : item.document.WellFormed := Node.document_of_parent habove ▸ hwf'
    have hlt' := Node.number_lt_of_parent hitem habove
    have hnot : item ∉ registry.members window := fun hmember =>
      hitems (items_eq_none_of_parent hwf hmember hcontainer habove hrules)
    rw [Registry.parentMember,
      Node.ancestorsWithin_of_parent hobject hparent (Nat.ne_of_gt (Nat.lt_trans hlt hlt')),
      Node.ancestorsWithin_of_parent hitem habove (Nat.ne_of_gt hlt), List.find?_cons,
      decide_eq_false hnot, Bool.false_and, hstep]
    rfl

/-- The nearest member around an object is on an earlier level. -/
theorem parentMember_of_mem_generation {depth : Nat} {above : Node}
    (h : object ∈ generation registry.kids (registry.roots window) depth)
    (habove : registry.parentMember window object = some above) :
    ∃ earlier < depth, above ∈ generation registry.kids (registry.roots window) earlier := by
  induction depth generalizing object with
  | zero =>
    rw [parentMember_of_mem_objects hwf (List.mem_filter.mp h).1] at habove
    cases habove
  | succ depth ih =>
    obtain ⟨container, hdepth, hkid⟩ := mem_generation_succ.mp h
    have hcontainer := (mem_members_iff hwf).mpr ⟨depth, hdepth⟩
    rw [parentMember_of_mem_kids hwf hcontainer hkid] at habove
    split at habove
    · cases habove
      exact ⟨depth, Nat.lt_succ_self depth, hdepth⟩
    · obtain ⟨earlier, hlt, hearlier⟩ := ih hdepth habove
      exact ⟨earlier, Nat.lt_succ_of_lt hlt, hearlier⟩

/-- **No parent comes after the objects constructed in it.** -/
theorem mem_before_of_parentMember {before after : List Node} {above : Node}
    (hsplit : registry.members window = before ++ object :: after)
    (habove : registry.parentMember window object = some above) : above ∈ before := by
  have hobject : object ∈ registry.members window := by simp [hsplit]
  obtain ⟨depth, hdepth⟩ := (mem_members_iff hwf).mp hobject
  obtain ⟨earlier, hlt, hearlier⟩ := parentMember_of_mem_generation hwf hdepth habove
  have hmember : above ∈ registry.members window := (mem_members_iff hwf).mpr ⟨earlier, hearlier⟩
  obtain ⟨hunique, hroot⟩ := kids_unique registry hwf
  rw [hsplit, List.mem_append, List.mem_cons] at hmember
  rcases hmember with hbefore | rfl | hafter
  · exact hbefore
  · have := depth_unique hunique hroot hdepth hearlier
    omega
  · have hordered : (registry.members window).Pairwise _ := levelOrder_pairwise _
    rw [hsplit, List.pairwise_append, List.pairwise_cons] at hordered
    obtain ⟨i, j, hle, hi, hj⟩ := hordered.2.1.1 above hafter
    have := depth_unique hunique hroot hdepth hi
    have := depth_unique hunique hroot hearlier hj
    omega

/-- The parent handed down to an object that waits is the nearest member around it. -/
theorem parentObject_of_mem_generation {windowClass : WindowClass} {depth : Nat} {pending : Pending}
    (h : pending ∈ generation registry.inside
      ((topObjects window windowClass).filter registry.adds) depth) :
    pending.parentObject = (registry.parentMember window pending.node).map Node.name := by
  induction depth generalizing pending with
  | zero =>
    obtain ⟨object, hobject, rfl⟩ := List.mem_map.mp (List.mem_filter.mp h).1
    rw [parentMember_of_mem_objects hwf hobject]
    rfl
  | succ depth ih =>
    obtain ⟨above, hdepth, hinside⟩ := mem_generation_succ.mp h
    have hcontainer : above.node ∈ registry.members window := by
      refine (mem_members_iff hwf).mpr ⟨depth, ?_⟩
      rw [← map_node_filter_topObjects windowClass, ← map_generation registry.map_node_inside]
      exact List.mem_map_of_mem hdepth
    have hkid : pending.node ∈ registry.kids above.node := by
      rw [← registry.map_node_inside]
      exact List.mem_map_of_mem hinside
    rw [parentMember_of_mem_kids hwf hcontainer hkid]
    unfold Registry.inside at hinside
    unfold Registry.reparents
    cases hrules : registry.container? above.node with
    | none => rw [hrules] at hinside; cases hinside
    | some rules =>
      rw [hrules] at hinside
      obtain ⟨object, -, rfl⟩ := List.mem_map.mp hinside
      rw [Option.any_some]
      dsimp only
      rw [ih hdepth]
      split <;> rfl

end Members

/-- The parents of the placements of a window. -/
theorem Resolution.parent_eq {registry : Registry} {window : Node} {plan : WindowPlan}
    (hwf : window.document.WellFormed) (resolution : Resolution registry window plan)
    {placement : Placement registry} (h : placement ∈ resolution.placements) :
    placement.construction.parent =
      (registry.parentMember window placement.pending.node).map Node.name := by
  have hpending : placement.pending ∈ registry.listing window resolution.windowClass :=
    resolution.pendings_eq ▸ List.mem_map_of_mem h
  obtain ⟨depth, -, hdepth⟩ := List.mem_flatMap.mp hpending
  exact parentObject_of_mem_generation hwf hdepth

/-- **Parents are right and never forward**: the parent of a construction is the nearest member
around its object that takes the objects in it as its children, and its construction comes before;
without such a member it is the window. -/
theorem parents_of_resolveWindow {registry : Registry} {window : Node} {text : String}
    {plan : WindowPlan} (hparse : Document.parse text = .ok window.document)
    (hplan : (resolveWindow registry window).result = .ok plan) :
    List.Forall₂ (fun object construction => construction.field = object.name ∧
        construction.parent = (registry.parentMember window object).map Node.name)
      (registry.members window) plan.constructions ∧
    ∀ before construction after, plan.constructions = before ++ construction :: after →
      ∀ parent ∈ construction.parent, parent ∈ before.map Construction.field := by
  have hwf := Document.wellFormed_of_parse hparse
  obtain ⟨resolution⟩ := exists_resolution hwf hplan
  rw [resolution.constructions_eq, ← resolution.nodes_eq]
  refine ⟨?_, fun before construction after hsplit parent hparent => ?_⟩
  · rw [List.forall₂_map_left_iff, List.forall₂_map_right_iff, List.forall₂_same]
    exact fun placement h => ⟨rfl, resolution.parent_eq hwf h⟩
  · obtain ⟨placements₁, rest, hplacements, rfl, hrest⟩ := List.map_eq_append_iff.mp hsplit
    obtain ⟨placement, placements₂, rfl, rfl, rfl⟩ := List.map_eq_cons_iff.mp hrest
    have hmem : placement ∈ resolution.placements := by simp [hplacements]
    rw [resolution.parent_eq hwf hmem] at hparent
    obtain ⟨above, habove, rfl⟩ := Option.map_eq_some_iff.mp hparent
    have hnodes := resolution.nodes_eq
    rw [hplacements, List.map_append, List.map_cons] at hnodes
    obtain ⟨earlier, hearlier, rfl⟩ :=
      List.mem_map.mp (mem_before_of_parentMember hwf hnodes.symm habove)
    rw [List.map_map]
    exact List.mem_map_of_mem (f := Construction.field ∘ Placement.construction) hearlier

theorem parents_of_resolveWindow_sampleWindow : ∃ plan,
    (resolveWindow .wxgo sampleWindow).result = .ok plan ∧
    List.Forall₂ (fun object construction => construction.field = object.name ∧
        construction.parent = (Registry.wxgo.parentMember sampleWindow object).map Node.name)
      [sampleDocument.node 3, sampleDocument.node 4, sampleDocument.node 13] plan.constructions ∧
    Registry.wxgo.parentMember sampleWindow (sampleDocument.node 13) =
      some (sampleDocument.node 3) := by
  obtain ⟨plan, hplan⟩ := resolveWindow_sampleWindow
  have h := parents_of_resolveWindow parse_sampleText hplan
  have hmembers : Registry.wxgo.members sampleWindow =
      [sampleDocument.node 3, sampleDocument.node 4, sampleDocument.node 13] := by decide +kernel
  exact ⟨plan, hplan, hmembers ▸ h.1, by decide +kernel⟩

end GladeGo
