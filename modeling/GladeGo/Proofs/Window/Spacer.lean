import GladeGo.Proofs.Go.Constant
import GladeGo.Proofs.Widget.Argument
import GladeGo.Proofs.Window.Layout

/-! # Spacers

A spacer of a box sizer is a number: the proportion of its item, or else its own extent along the
axis of the sizer. The axis is that of the orientation which the sizer is constructed with. The
walk tells it from the text of the sizer's `orient` element, and the constructor has the Go
expression for that text; but the word that decides is in one exactly if it is in the other
(`extentTag_of_constant`). A resolved sizer has that element, so that an attribute of this name is
not looked at (`isHorizontal_eq`). -/

namespace GladeGo

open Text (IsInt64 trimChars showInt)

/-! ### Numbers in child elements -/

theorem Node.integerField_eq_ok_iff {node : Node} {tag : String} {default : Option Int} {i : Int} :
    node.integerField tag default = .ok i ↔
      (∃ raw, node.elementText? tag = some raw ∧ IsInt64 (trimChars raw.toList) i) ∨
        node.elementText? tag = none ∧ default = some i := by
  unfold Node.integerField
  cases node.elementText? tag with
  | none => cases default <;> simp
  | some raw =>
    have hread : Go.readInteger raw.toList = .ok i ↔ IsInt64 (trimChars raw.toList) i :=
      Text.readInt_eq_ok_iff
    simp only [Option.some.injEq, exists_eq_left', ← hread, reduceCtorEq, false_and, or_false]
    cases Go.readInteger raw.toList <;> simp

/-- A number that is not the default stands in the child element. -/
theorem Node.integerField_eq_ok_iff_of_ne {node : Node} {tag : String} {default : Option Int}
    {i : Int} (h : default ≠ some i) : node.integerField tag default = .ok i ↔
      ∃ raw, node.elementText? tag = some raw ∧ IsInt64 (trimChars raw.toList) i := by
  rw [Node.integerField_eq_ok_iff, or_iff_left]
  exact fun ⟨_, hdefault⟩ => h hdefault

theorem Node.integerField_eq_default_iff {node : Node} {tag : String} {default : Int} :
    node.integerField tag (some default) = .ok default ↔
      ∀ raw, node.elementText? tag = some raw → IsInt64 (trimChars raw.toList) default := by
  rw [Node.integerField_eq_ok_iff]
  cases node.elementText? tag <;> simp

/-! ### The axis -/

/-- The child element that holds the extent of a spacer along the axis of its sizer: its width, if
the orientation names the horizontal direction. -/
def extentTag (orientation : String) : String :=
  if Text.contains orientation "HORIZONTAL" then "width" else "height"

/-- **The orientation of the constructor** has the axis of the text that it is written for. -/
theorem extentTag_of_constant {raw orientation : String} (h : Go.constant raw = .ok orientation) :
    extentTag orientation = extentTag raw := by
  have hword : Text.contains orientation "HORIZONTAL" = Text.contains raw "HORIZONTAL" := by
    rw [Bool.eq_iff_iff, Text.contains_iff, Text.contains_iff]
    exact Go.infix_constant_iff h (by decide) (List.all_eq_true.mp (by decide))
  rw [extentTag, hword, extentTag]

/-- A box sizer that is constructed with `orientation`. -/
def boxSizerWith (orientation : String) : ResolvedWidget where
  typeName := boxSizer.typeName
  constructor := boxSizer.constructor
  needsParent := boxSizer.needsParent
  arguments := some orientation
  properties := boxSizer.properties
  container := some boxSizer

/-- **A box sizer is constructed** with the Go expression for its `orient` element. -/
theorem resolve_boxSizer_eq_ok_iff {sizer : Node} {widget : ResolvedWidget} :
    (boxSizer.toWidgetClass.resolve (some boxSizer) sizer).result = .ok widget ↔
      ∃ raw orientation, sizer.elementText? "orient" = some raw ∧
        Go.constant raw = .ok orientation ∧ orientation ≠ "" ∧
        widget = boxSizerWith orientation := by
  have hslot : (boxSizer.toWidgetClass.resolve (some boxSizer) sizer).result =
      ((Slot.ofElement "orient" .constant none).evaluate ⟨sizer, none⟩).result.map
        boxSizerWith := by
    have harguments : boxSizer.arguments = [.ofElement "orient" .constant none] := rfl
    simp only [WidgetClass.resolve, harguments, Logged.result_bind, Logged.result_pure,
      result_renderArguments_singleton]
    cases ((Slot.ofElement "orient" .constant none).evaluate ⟨sizer, none⟩).result <;> rfl
  have hconvert : ∀ raw orientation,
      Converter.constant.convertText raw = .ok orientation ↔ Go.constant raw = .ok orientation :=
    fun raw orientation => mapError_eq_ok
  rw [hslot]
  constructor
  · intro h
    cases hvalue : ((Slot.ofElement "orient" .constant none).evaluate ⟨sizer, none⟩).result with
    | error fault =>
      rw [hvalue] at h
      cases h
    | ok orientation =>
      rw [hvalue] at h
      cases h
      obtain ⟨raw, hraw, hconstant, hne⟩ := result_evaluate_ofElement_eq_ok_iff.mp hvalue
      exact ⟨raw, orientation, hraw, (hconvert _ _).mp hconstant, hne, rfl⟩
  · rintro ⟨raw, orientation, hraw, hconstant, hne, rfl⟩
    rw [result_evaluate_ofElement_eq_ok_iff.mpr ⟨raw, hraw, (hconvert _ _).mpr hconstant, hne⟩]
    rfl

theorem isHorizontal_eq {container : Container} {axis : String}
    (horient : container.node.elementText? "orient" = some axis) :
    (if container.isHorizontal "orient" then "width" else "height") = extentTag axis := by
  rw [Container.isHorizontal, horient]
  rfl

/-! ### Calls for spacers -/

/-- The call for a spacer in an item of the box sizer `sizer`, which is constructed with
`orientation`: the proportion of the item, or else the extent of the spacer along the axis. -/
inductive SpacerCall (sizer orientation : String) (item spacer : Node) : LayoutCall → Prop
  | stretch {raw : String} {proportion : Int} (hoption : item.elementText? "option" = some raw)
      (hvalue : IsInt64 (trimChars raw.toList) proportion) (hne : proportion ≠ 0) :
      SpacerCall sizer orientation item spacer
        ⟨sizer, .literal (showInt proportion), none, "AddStretchSpacer"⟩
  | fixed {raw : String} {extent : Int}
      (hoption : ∀ raw, item.elementText? "option" = some raw → IsInt64 (trimChars raw.toList) 0)
      (hextent : spacer.elementText? (extentTag orientation) = some raw)
      (hvalue : IsInt64 (trimChars raw.toList) extent) :
      SpacerCall sizer orientation item spacer
        ⟨sizer, .literal (showInt extent), none, "AddSpacer"⟩

/-- **The call for a spacer** in a container of the class of box sizers. -/
theorem spacerCall_eq_ok_iff {container : Container} {axis : String} {item spacer : Node}
    {call : LayoutCall} (hrules : container.rules = boxSizer)
    (horient : container.node.elementText? "orient" = some axis) :
    container.spacerCall item spacer = .ok call ↔
      SpacerCall container.name axis item spacer call := by
  have hkind : container.rules.kind = .sizer "orient" := by
    rw [hrules]
    rfl
  simp only [Container.spacerCall, hkind, isHorizontal_eq horient, bind_eq_ok]
  constructor
  · rintro ⟨proportion, hproportion, h⟩
    by_cases hzero : proportion = 0
    · subst hzero
      rw [if_neg (by simp)] at h
      obtain ⟨extent, hextent, h⟩ := bind_eq_ok.mp h
      cases h
      obtain ⟨raw, hraw, hvalue⟩ :=
        (Node.integerField_eq_ok_iff_of_ne (Option.some_ne_none _).symm).mp hextent
      exact .fixed (Node.integerField_eq_default_iff.mp hproportion) hraw hvalue
    · rw [if_pos hzero] at h
      cases h
      have hne : some 0 ≠ some proportion := fun heq => hzero (Option.some.inj heq).symm
      obtain ⟨raw, hraw, hvalue⟩ := (Node.integerField_eq_ok_iff_of_ne hne).mp hproportion
      exact .stretch hraw hvalue hzero
  · intro h
    cases h with
    | @stretch raw proportion hoption hvalue hne =>
      have hdefault : some 0 ≠ some proportion := fun heq => hne (Option.some.inj heq).symm
      refine ⟨proportion,
        (Node.integerField_eq_ok_iff_of_ne hdefault).mpr ⟨raw, hoption, hvalue⟩, ?_⟩
      rw [if_pos hne]
    | @fixed raw extent hoption hextent hvalue =>
      have hfield := (Node.integerField_eq_ok_iff_of_ne (Option.some_ne_none _).symm).mpr
        ⟨raw, hextent, hvalue⟩
      refine ⟨0, Node.integerField_eq_default_iff.mpr hoption, ?_⟩
      rw [if_neg (by simp), hfield]
      rfl

/-- Orientations along the same axis give the same call. -/
theorem SpacerCall.of_extentTag {sizer orientation other : String} {item spacer : Node}
    {call : LayoutCall} (haxis : extentTag orientation = extentTag other)
    (h : SpacerCall sizer orientation item spacer call) :
    SpacerCall sizer other item spacer call := by
  cases h with
  | stretch hoption hvalue hne => exact .stretch hoption hvalue hne
  | fixed hoption hextent hvalue => exact .fixed hoption (haxis ▸ hextent) hvalue

/-! ### The spacers of a window -/

theorem Container.Attached.spacerCall_of_spacer {container : Container} {item spacer : Node}
    {call : LayoutCall} {found : Option Pending}
    (h : container.Attached item spacer (some ⟨call, found⟩))
    (hspacer : container.registry.isSpacer spacer.base = true) :
    container.spacerCall item spacer = .ok call := by
  cases h with
  | spacer _ hcall => exact hcall
  | member hvisits _ _ =>
    rw [Registry.visits, hspacer] at hvisits
    cases hvisits

/-- A member has one construction. -/
theorem Resolution.construction_eq {registry : Registry} {window : Node} {plan : WindowPlan}
    (resolution : Resolution registry window plan) {placement : Placement registry}
    (h : placement ∈ resolution.placements) :
    (plan.constructions.filter fun construction => construction.field = placement.name) =
      [placement.construction] := by
  rw [resolution.constructions_eq, List.map_eq_flatMap]
  refine filter_flatMap_eq (fun other _ construction hconstruction => ?_) resolution.nodup h
  rw [List.mem_singleton.mp hconstruction]
  rfl

/-- **The spacers of a box sizer** follow the orientation that it is constructed with. -/
theorem spacers_of_boxSizer {window : Node} {plan : WindowPlan}
    (resolution : Resolution .wxgo window plan) {sizer : Node}
    (h : sizer ∈ Registry.wxgo.members window) (hbase : sizer.base = "EditBoxSizer") :
    ∃ construction orientation,
      (plan.constructions.filter fun other => other.field = sizer.name) = [construction] ∧
      construction.arguments = some orientation ∧
      List.Forall₂ (fun item call => ∃ object, item.objects = [object] ∧
          (object.base = "EditSpacer" → SpacerCall sizer.name orientation item object call))
        (sizer.objects.filter fun item => item.className == "sizeritem")
        (plan.layoutOf sizer.name) := by
  obtain ⟨placement, hplacement, rfl, hfilled, hattached⟩ :=
    attached_of_wxgo resolution h (wxgo_container?_boxSizer hbase)
  obtain ⟨hslots, hcount⟩ := hfilled.boxSizer_slots rfl
  have hdescriptor : placement.descriptor = .container boxSizer := by
    have hlookup := placement.lookup
    rw [hbase] at hlookup
    exact (Option.some.inj hlookup).symm
  have hresolved := placement.resolved
  rw [hdescriptor] at hresolved
  obtain ⟨raw, orientation, hraw, hconstant, -, hwidget⟩ :=
    resolve_boxSizer_eq_ok_iff.mp hresolved
  have harguments : placement.construction.arguments = some orientation :=
    congrArg ResolvedWidget.arguments hwidget
  refine ⟨placement.construction, orientation, resolution.construction_eq hplacement, harguments,
    ?_⟩
  have hcalls := forall₂_of_singletons hcount hattached
  rw [hslots] at hcalls
  refine hcalls.imp fun item call ⟨object, hobject, found, hentry⟩ => ⟨object, hobject, ?_⟩
  intro hspacer
  have hcall : (placement.pending.container .wxgo boxSizer).spacerCall item object = .ok call :=
    hentry.spacerCall_of_spacer (wxgo_isSpacer_iff.mpr hspacer)
  exact ((spacerCall_eq_ok_iff rfl hraw).mp hcall).of_extentTag
    (extentTag_of_constant hconstant).symm

end GladeGo
