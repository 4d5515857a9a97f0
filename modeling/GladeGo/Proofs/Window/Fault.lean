import GladeGo.Proofs.Window.Placement

/-! # The faults of a visit

A fault is about something that stands in the document: an object whose base is not known, a text
that has no conversion, a name that is taken. `Registry.FaultOf` lists the faults that a visit may
make, each with what is wrong, and `faultOf_addObject` says that the list is complete. None of them
says that the walk has come to an object before: only the loop of the walk does (`noRevisit_visit`).
-/

namespace GladeGo

/-! ### The faults of values -/

/-- If what `source` has in the scope has no conversion, the fault has the property `p`. -/
def Scope.Refuses (p : ResolutionFault → Prop) (scope : Scope) (source : Source)
    (converter : Converter) : Prop :=
  ∀ raw cause, source.raw? scope = some raw → converter.convert raw = .error cause →
    p (scope.node.conversionFault source.field raw.display cause)

section Values
variable {p : ResolutionFault → Prop}
  (hempty : ∀ tag className field raw, p (.emptyValue tag className field raw))
include hempty

theorem failsOnlyWith_memberName (node : Node) : FailsOnlyWith p node.memberName := by
  unfold Node.memberName
  split
  · exact failsOnlyWith_error (hempty _ _ _ _)
  · split
    · exact failsOnlyWith_error (hempty _ _ _ _)
    · exact failsOnlyWith_ok _

theorem failsOnlyWith_presentValue (node : Node) (field : String) (raw value : Option String) :
    FailsOnlyWith p (presentValue node field raw value) := by
  unfold presentValue
  split
  · exact failsOnlyWith_error (hempty _ _ _ _)
  · split
    · exact failsOnlyWith_error (hempty _ _ _ _)
    · exact failsOnlyWith_ok _

theorem failsOnlyWith_eventBindings (field : String) (node : Node) :
    FailsOnlyWith p (eventBindings field node) := by
  unfold eventBindings
  refine failsOnlyWith_mapM (fun handler => ?_) _
  unfold eventBinding
  dsimp only
  split
  · exact failsOnlyWith_error (hempty _ _ _ _)
  · exact failsOnlyWith_ok _

theorem failsOnlyWith_expressions (custom : CustomClass) (node : Node) (place : Nat)
    (arguments : List String) : FailsOnlyWith p (custom.expressions node place arguments) := by
  induction arguments generalizing place with
  | nil => exact failsOnlyWith_ok _
  | cons argument arguments ih =>
    unfold CustomClass.expressions
    split
    · exact failsOnlyWith_error (hempty _ _ _ _)
    · exact (ih (place + 1)).bind fun _ => failsOnlyWith_ok _

theorem failsOnlyWith_integerField {node : Node} {tag : String}
    (h : Scope.Refuses p ⟨node, none⟩ (.element tag) .integer) (default : Option Int) :
    FailsOnlyWith p (node.integerField tag default) := by
  unfold Node.integerField
  split
  · rename_i raw hraw
    split
    · exact failsOnlyWith_ok _
    · rename_i cause hcause
      refine failsOnlyWith_error (h (.text raw) _ ?_ ?_)
      · exact congrArg (Option.map RawValue.text) hraw
      · simp [Converter.convert, Converter.convertText, Go.integer, hcause, Except.map,
          Except.mapError]
  · exact failsOnlyWith_ok _
  · exact failsOnlyWith_error (hempty _ _ _ _)

theorem failsOnlyWith_setterCalls {node : Node} {properties : List Property}
    (h : ∀ property ∈ properties,
      Scope.Refuses p ⟨node, none⟩ (.element property.tag) property.converter)
    (field : Option String) : FailsOnlyWith p (setterCalls field node properties) := by
  unfold setterCalls
  refine (failsOnlyWith_mapM_of_mem fun property hproperty => ?_).bind fun _ => failsOnlyWith_ok _
  split
  · exact failsOnlyWith_ok _
  · rename_i raw hraw
    refine FailsOnlyWith.bind ?_ fun _ => failsOnlyWith_ok _
    unfold convertProperty
    split
    · rename_i cause hcause
      refine failsOnlyWith_error (h property hproperty (.text raw) cause ?_ hcause)
      exact congrArg (Option.map RawValue.text) hraw
    · exact failsOnlyWith_presentValue hempty node property.tag (some raw) _

theorem failsOnlyWith_evaluate {binding : Binding} {scope : Scope}
    (h : scope.Refuses p binding.source binding.converter) :
    FailsOnlyWith p (binding.evaluate scope).result := by
  unfold Binding.evaluate
  dsimp only
  split
  · exact failsOnlyWith_presentValue hempty _ _ _ _
  · rename_i raw hraw
    rw [Logged.result_bind]
    refine (failsOnlyWith_ok ()).bind fun _ => ?_
    split
    · rename_i cause hcause
      exact failsOnlyWith_error (h raw cause hraw hcause)
    · exact failsOnlyWith_presentValue hempty _ _ _ _

theorem failsOnlyWith_renderArguments {slots : List Slot} {scope : Scope}
    (h : ∀ binding, .bound binding ∈ slots → scope.Refuses p binding.source binding.converter) :
    FailsOnlyWith p (renderArguments slots scope).result := by
  unfold renderArguments
  split
  · exact failsOnlyWith_ok _
  · rw [Logged.result_bind, Logged.result_mapM]
    refine (failsOnlyWith_mapM_of_mem fun slot hslot => ?_).bind fun _ => failsOnlyWith_ok _
    cases slot with
    | fixed expression => exact failsOnlyWith_ok _
    | bound binding => exact failsOnlyWith_evaluate hempty (h binding hslot)

end Values

/-! ### The faults of an object -/

/-- The arguments of the constructor of a descriptor. -/
def Descriptor.arguments : Descriptor → List Slot
  | .widget w => w.arguments
  | .container c => c.arguments
  | .custom _ => []

/-- What the visit of an object converts: a source in a scope, by a converter. -/
inductive Registry.Converts (registry : Registry) (object : Node) :
    Scope → Source → Converter → Prop
  | property {descriptor : Descriptor} {property : Property}
      (hdescriptor : registry.descriptor? object.base = some descriptor)
      (hproperty : property ∈ descriptor.properties) :
      Converts registry object ⟨object, none⟩ (.element property.tag) property.converter
  | argument {descriptor : Descriptor} {binding : Binding}
      (hdescriptor : registry.descriptor? object.base = some descriptor)
      (hbinding : .bound binding ∈ descriptor.arguments) :
      Converts registry object ⟨object, none⟩ binding.source binding.converter
  /-- An argument of the call that attaches an object of the container. -/
  | item {rules : ContainerClass} {slot kid : Node} {binding : Binding}
      (hrules : registry.container? object = some rules) (hslot : slot ∈ rules.slots object)
      (hkid : kid ∈ slot.objects) (hvisits : registry.visits kid = true)
      (hbinding : .bound binding ∈ rules.itemArguments) :
      Converts registry object ⟨slot, some kid⟩ binding.source binding.converter
  /-- The proportion of the item in which a spacer stands. -/
  | proportion {rules : ContainerClass} {orientation : String} {slot spacer : Node}
      (hrules : registry.container? object = some rules) (hkind : rules.kind = .sizer orientation)
      (hslot : slot ∈ rules.slots object) (hspacer : spacer ∈ slot.objects)
      (hbase : registry.isSpacer spacer.base = true) :
      Converts registry object ⟨slot, none⟩ (.element "option") .integer
  /-- The extent of a spacer. -/
  | extent {rules : ContainerClass} {orientation : String} {slot spacer : Node} {tag : String}
      (hrules : registry.container? object = some rules) (hkind : rules.kind = .sizer orientation)
      (hslot : slot ∈ rules.slots object) (hspacer : spacer ∈ slot.objects)
      (hbase : registry.isSpacer spacer.base = true) (htag : tag = "width" ∨ tag = "height") :
      Converts registry object ⟨spacer, none⟩ (.element tag) .integer

/-- The faults that the visit of an object may make when the plan has come to it. -/
inductive Registry.FaultOf (registry : Registry) (plan : WindowPlan) (object : Node) :
    ResolutionFault → Prop
  | unknownWidget (h : registry.descriptor? object.base = none) :
      FaultOf registry plan object (.unknownWidget object.base object.className object.name)
  | conversion {scope : Scope} {source : Source} {converter : Converter} {raw : RawValue}
      {cause : ConversionFault} (h : registry.Converts object scope source converter)
      (hraw : source.raw? scope = some raw) (hcause : converter.convert raw = .error cause) :
      FaultOf registry plan object (scope.node.conversionFault source.field raw.display cause)
  | emptyValue (tag className field : String) (raw : Option String) :
      FaultOf registry plan object (.emptyValue tag className field raw)
  | container (className name : String) {fault : ContainerFault} (h : fault ≠ .reachedTwice) :
      FaultOf registry plan object (.container className name fault)
  | duplicateMember (h : plan.isTaken object.name = true) :
      FaultOf registry plan object (.duplicateMember object.className object.name plan.name)

section Object
variable {registry : Registry} {plan : WindowPlan} {object : Node}

theorem refuses_of_converts {scope : Scope} {source : Source} {converter : Converter}
    (h : registry.Converts object scope source converter) :
    scope.Refuses (registry.FaultOf plan object) source converter :=
  fun _ _ hraw hcause => .conversion h hraw hcause

theorem faultOf_resolve {descriptor : Descriptor}
    (hdescriptor : registry.descriptor? object.base = some descriptor) :
    FailsOnlyWith (registry.FaultOf plan object) (descriptor.resolve object).result := by
  have hwidget : ∀ (w : WidgetClass) (container : Option ContainerClass),
      descriptor.arguments = w.arguments →
      FailsOnlyWith (registry.FaultOf plan object) (w.resolve container object).result := by
    intro w container harguments
    rw [WidgetClass.resolve, Logged.result_bind, ← harguments]
    refine (failsOnlyWith_renderArguments .emptyValue fun binding hbinding => ?_).bind
      fun _ => failsOnlyWith_ok _
    exact refuses_of_converts (.argument hdescriptor hbinding)
  cases descriptor with
  | widget w => exact hwidget w none rfl
  | container c => exact hwidget c.toWidgetClass (some c) rfl
  | custom c =>
    rw [Descriptor.resolve, Logged.result_liftM]
    unfold CustomClass.resolve
    dsimp only
    split
    · exact failsOnlyWith_error (.emptyValue _ _ _ _)
    · generalize (if (c.listedArguments object).head? == some c.parentMarker then
        (c.listedArguments object).tail else c.listedArguments object) = arguments
      split
      · exact failsOnlyWith_error (.container _ _ (by simp))
      · exact (failsOnlyWith_expressions .emptyValue _ _ _ _).bind fun _ => failsOnlyWith_ok _

end Object

namespace Container
variable (container : Container) {plan : WindowPlan}
  (hrules : container.registry.container? container.node = some container.rules)
include hrules

theorem faultOf_spacerCall {slot spacer : Node}
    (hslot : slot ∈ container.rules.slots container.node) (hspacer : spacer ∈ slot.objects)
    (hbase : container.registry.isSpacer spacer.base = true) :
    FailsOnlyWith (container.registry.FaultOf plan container.node)
      (container.spacerCall slot spacer) := by
  unfold spacerCall
  split
  · exact failsOnlyWith_error (.container _ _ (by simp))
  · rename_i orientation hkind
    refine FailsOnlyWith.bind (failsOnlyWith_integerField .emptyValue ?_ _) fun proportion => ?_
    · exact refuses_of_converts (.proportion hrules hkind hslot hspacer hbase)
    · split
      · exact failsOnlyWith_ok _
      · refine FailsOnlyWith.bind (failsOnlyWith_integerField .emptyValue ?_ _)
          fun _ => failsOnlyWith_ok _
        refine refuses_of_converts (.extent hrules hkind hslot hspacer hbase ?_)
        split
        · exact Or.inl rfl
        · exact Or.inr rfl

theorem faultOf_attachObject {slot object : Node}
    (hslot : slot ∈ container.rules.slots container.node) (hobject : object ∈ slot.objects) :
    FailsOnlyWith (container.registry.FaultOf plan container.node)
      (container.attachObject slot object).result := by
  unfold attachObject
  dsimp only
  split
  · rename_i hbase
    simp only [Logged.result_bind, Logged.result_liftM]
    refine (faultOf_spacerCall container hrules hslot hobject hbase).bind fun _ => ?_
    exact (failsOnlyWith_ok ()).bind fun _ => failsOnlyWith_ok _
  · rename_i hspacer
    split
    · exact failsOnlyWith_ok _
    · rename_i hignored
      have hvisits : container.registry.visits object = true := by
        simp [Registry.visits, hspacer, hignored]
      simp only [Logged.result_bind, Logged.result_liftM]
      refine (failsOnlyWith_memberName .emptyValue object).bind fun name => ?_
      refine (failsOnlyWith_renderArguments .emptyValue fun binding hbinding => ?_).bind
        fun extra => ?_
      · exact refuses_of_converts (.item hrules hslot hobject hvisits hbinding)
      · exact (failsOnlyWith_ok ()).bind fun _ => failsOnlyWith_ok _

theorem faultOf_attachAll : FailsOnlyWith (container.registry.FaultOf plan container.node)
    container.attachAll.result := by
  have hholders : FailsOnlyWith (container.registry.FaultOf plan container.node)
      container.holders := by
    unfold holders
    split
    · exact failsOnlyWith_ok _
    · dsimp only
      split
      · exact failsOnlyWith_error (.container _ _ (by simp))
      · exact failsOnlyWith_ok _
  unfold attachAll
  simp only [Logged.result_bind, Logged.result_liftM, Logged.result_mapM]
  refine hholders.bind_of_ok fun holders hok => ?_
  obtain ⟨rfl, -⟩ := holders_ok hok
  refine (failsOnlyWith_mapM_of_mem fun slot hslot => ?_).bind fun _ => failsOnlyWith_ok _
  unfold attachItem
  dsimp only
  split
  · rw [Logged.result_bind, Logged.result_mapM]
    refine (failsOnlyWith_mapM_of_mem fun object hobject => ?_).bind fun _ => failsOnlyWith_ok _
    exact faultOf_attachObject container hrules hslot hobject
  · exact failsOnlyWith_error (.container _ _ (by simp))

end Container

/-- **The faults of an object**: adding it to the plan makes no others. -/
theorem faultOf_addObject (registry : Registry) (plan : WindowPlan) (pending : Pending) :
    FailsOnlyWith (registry.FaultOf plan pending.node) (addObject registry plan pending) := by
  unfold addObject
  dsimp only
  cases hdescriptor : registry.descriptor? pending.node.base with
  | none => exact failsOnlyWith_error (.unknownWidget hdescriptor)
  | some descriptor =>
    refine (faultOf_resolve hdescriptor).bind_of_ok fun widget hwidget => ?_
    obtain ⟨hcontainer, hproperties⟩ := Descriptor.parts_of_resolve hwidget
    refine (failsOnlyWith_memberName .emptyValue pending.node).bind_of_ok fun name hname => ?_
    obtain ⟨rfl, -⟩ := Node.memberName_eq_ok_iff.mp hname
    split
    · rename_i htaken
      exact failsOnlyWith_error (.duplicateMember htaken)
    · refine FailsOnlyWith.bind (failsOnlyWith_setterCalls .emptyValue ?_ _) fun properties => ?_
      · rw [hproperties]
        exact fun property hmem => refuses_of_converts (.property hdescriptor hmem)
      refine (failsOnlyWith_eventBindings .emptyValue _ _).bind fun bindings => ?_
      refine FailsOnlyWith.bind ?_ fun attached => failsOnlyWith_ok _
      unfold attachments
      split
      · exact failsOnlyWith_ok _
      · rename_i rules hrules
        refine Container.faultOf_attachAll
          (pending.container registry rules) (?_ : registry.container? pending.node = some rules)
        rw [Registry.container?, hdescriptor]
        exact hcontainer.symm.trans hrules

/-! ### The faults of a window -/

/-- A window fails in its own checks, or its walk fails. -/
theorem failsOnlyWith_resolveWindow {p : ResolutionFault → Prop} {registry : Registry}
    {window : Node} (hempty : ∀ tag className field raw, p (.emptyValue tag className field raw))
    (hunknown : registry.window? window.base = none →
      p (.unknownWidget window.base window.className window.name))
    (hproperty : ∀ windowClass, registry.window? window.base = some windowClass →
      ∀ property ∈ windowClass.properties,
        Scope.Refuses p ⟨window, none⟩ (.element property.tag) property.converter)
    (hwalk : ∀ windowClass setters, registry.window? window.base = some windowClass →
      FailsOnlyWith p (walk registry (List.range window.document.size)
        (topObjects window windowClass) (startPlan window windowClass setters)).result) :
    FailsOnlyWith p (resolveWindow registry window).result := by
  unfold resolveWindow
  dsimp only
  split
  · exact failsOnlyWith_error (hempty _ _ _ _)
  · split
    · rename_i hclass
      exact failsOnlyWith_error (hunknown hclass)
    · rename_i windowClass hclass
      simp only [Logged.result_bind, Logged.result_liftM]
      refine (failsOnlyWith_ok ()).bind fun _ => ?_
      exact (failsOnlyWith_setterCalls hempty (hproperty windowClass hclass) none).bind
        fun setters => hwalk windowClass setters hclass

/-! ### The fault of a second visit -/

/-- Whether a fault says that the walk has come to an object before. -/
def ResolutionFault.IsRevisit : ResolutionFault → Prop
  | .container _ _ .reachedTwice => True
  | _ => False

/-- The computation never says that the walk has come to an object before. -/
abbrev NoRevisit {α : Type} (x : Except ResolutionFault α) : Prop :=
  FailsOnlyWith (fun fault => ¬fault.IsRevisit) x

theorem Registry.FaultOf.noRevisit {registry : Registry} {plan : WindowPlan} {object : Node}
    {fault : ResolutionFault} (h : registry.FaultOf plan object fault) : ¬fault.IsRevisit := by
  intro hrevisit
  cases h with
  | @container className name fault hne =>
    cases fault with
    | reachedTwice => exact hne rfl
    | _ => exact hrevisit
  | _ => exact hrevisit

/-- **A visit does not say that the walk has come to an object before.** -/
theorem noRevisit_visit (registry : Registry) (plan : WindowPlan) (pending : Pending) :
    NoRevisit (visit registry plan pending).result := by
  rw [result_visit]
  split
  · exact failsOnlyWith_ok _
  · intro fault h
    cases hadd : addObject registry plan pending with
    | ok later => rw [hadd] at h; cases h
    | error other =>
      rw [hadd] at h
      cases h
      exact (faultOf_addObject registry plan pending _ hadd).noRevisit

/-- A window whose walk does not say so does not say so. -/
theorem noRevisit_resolveWindow {registry : Registry} {window : Node}
    (hwalk : ∀ windowClass setters, NoRevisit (walk registry (List.range window.document.size)
      (topObjects window windowClass) (startPlan window windowClass setters)).result) :
    NoRevisit (resolveWindow registry window).result :=
  failsOnlyWith_resolveWindow (fun _ _ _ _ => id) (fun _ => id) (fun _ _ _ _ _ _ _ _ => id)
    fun windowClass setters _ => hwalk windowClass setters

end GladeGo
