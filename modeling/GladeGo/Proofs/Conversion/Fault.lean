import GladeGo.Proofs.Conversion.Plans
import GladeGo.Proofs.Window.Fault
import GladeGo.Proofs.Window.Resolution

/-! # The faults of a document

If a document cannot be resolved, the fault is there: `Registry.Blames` says, for each fault of a
window, what stands in the document. The walk adds the members of a window in level order, so a
fault of the walk is one that the visit of some member makes after the members before it have been
added (`blames_walk`): an unknown base is the base of that member, a name that is taken is that of
the window's own field or of an earlier member, and a text without a conversion is the text of a
child element, as nothing else in the catalogue can be refused (`Registry.RefusesTextsOnly`). -/

namespace GladeGo

/-! ### Values that can be refused -/

/-- Whether the binding refuses nothing but texts of child elements. -/
def Binding.refusesTextsOnly (binding : Binding) : Bool :=
  match binding.source with
  | .element _ => true
  | .attribute _ => binding.converter == .string
  | .child => binding.converter == .tabLabel

/-- Whether the slot refuses nothing but texts of child elements. -/
def Slot.refusesTextsOnly : Slot → Bool
  | .fixed _ => true
  | .bound binding => binding.refusesTextsOnly

/-- The slots that a registry evaluates: the arguments of its constructors and those of the calls
that attach objects. -/
def Registry.slots (registry : Registry) : List Slot :=
  registry.descriptors.flatMap fun descriptor =>
    descriptor.arguments ++ (descriptor.container?.map ContainerClass.itemArguments).getD []

/-- The registry refuses nothing but texts of child elements. -/
def Registry.RefusesTextsOnly (registry : Registry) : Prop :=
  ∀ slot ∈ registry.slots, slot.refusesTextsOnly = true

theorem refusesTextsOnly_wxgo : Registry.wxgo.RefusesTextsOnly := by
  have hslots : Registry.wxgo.slots.all Slot.refusesTextsOnly = true := by decide +kernel
  exact List.all_eq_true.mp hslots

theorem Binding.element_of_refused {binding : Binding} {scope : Scope} {raw : RawValue}
    {cause : ConversionFault} (h : binding.refusesTextsOnly = true)
    (hraw : binding.source.raw? scope = some raw)
    (hcause : binding.converter.convert raw = .error cause) :
    ∃ tag, binding.source = .element tag := by
  obtain ⟨source, converter, default⟩ := binding
  rcases source with tag | key | -
  · exact ⟨tag, rfl⟩
  · -- A text always has a conversion to a string.
    obtain rfl : converter = .string := by simpa [refusesTextsOnly] using h
    obtain ⟨content, -, rfl⟩ := Option.map_eq_some_iff.mp hraw
    cases hcause
  · -- A node always has a conversion to the label of its tab.
    obtain rfl : converter = .tabLabel := by simpa [refusesTextsOnly] using h
    obtain ⟨page, -, rfl⟩ := Option.map_eq_some_iff.mp hraw
    cases hcause

theorem Registry.mem_slots {registry : Registry} {slot : Slot} {base : String}
    {descriptor : Descriptor} (hdescriptor : registry.descriptor? base = some descriptor)
    (h : slot ∈ descriptor.arguments ∨
      ∃ rules, descriptor.container? = some rules ∧ slot ∈ rules.itemArguments) :
    slot ∈ registry.slots := by
  refine List.mem_flatMap.mpr ⟨descriptor, List.mem_of_find?_eq_some hdescriptor, ?_⟩
  rcases h with harguments | ⟨rules, hrules, hitem⟩
  · exact List.mem_append_left _ harguments
  · exact List.mem_append_right _ (by simpa [hrules] using hitem)

/-- What the visit of an object refuses is the text of a child element. -/
theorem Registry.Converts.element_of_refused {registry : Registry} {object : Node} {scope : Scope}
    {source : Source} {converter : Converter} {raw : RawValue} {cause : ConversionFault}
    (hregistry : registry.RefusesTextsOnly) (h : registry.Converts object scope source converter)
    (hraw : source.raw? scope = some raw) (hcause : converter.convert raw = .error cause) :
    ∃ tag, source = .element tag := by
  cases h with
  | property | proportion | extent => exact ⟨_, rfl⟩
  | argument hdescriptor hbinding =>
    have hslot := Registry.mem_slots hdescriptor (Or.inl hbinding)
    exact Binding.element_of_refused (hregistry _ hslot) hraw hcause
  | item hrules _ _ _ hbinding =>
    obtain ⟨descriptor, hdescriptor, hcontainer⟩ := Option.bind_eq_some_iff.mp hrules
    have hslot := Registry.mem_slots hdescriptor (Or.inr ⟨_, hcontainer, hbinding⟩)
    exact Binding.element_of_refused (hregistry _ hslot) hraw hcause

theorem Converter.convert_text_eq_error {converter : Converter} {content : String}
    {cause : ConversionFault} :
    converter.convert (.text content) = .error cause ↔
      converter.convertText content = .error cause := by
  rw [convert]
  cases converter.convertText content <;> simp [Except.map]

/-! ### What a fault says of the document -/

/-- The text of the child element `tag` of the node is converted when the window is resolved. -/
inductive Registry.Reads (registry : Registry) (window : Node) : Node → String → Converter → Prop
  | window {windowClass : WindowClass} {property : Property}
      (hclass : registry.window? window.base = some windowClass)
      (hproperty : property ∈ windowClass.properties) :
      Reads registry window window property.tag property.converter
  | member {object : Node} {scope : Scope} {tag : String} {converter : Converter}
      (hobject : object ∈ registry.members window)
      (h : registry.Converts object scope (.element tag) converter) :
      Reads registry window scope.node tag converter

/-- What stands in a document of which the window has the fault. Empty values and malformed
containers are not followed further. -/
inductive Registry.Blames (registry : Registry) (window : Node) : ResolutionFault → Prop
  | unknownWindow (h : registry.window? window.base = none) :
      Blames registry window (.unknownWidget window.base window.className window.name)
  | unknownObject {object : Node} (hobject : window.HoldsObject object)
      (hdescriptor : registry.descriptor? object.base = none)
      (hignored : registry.isIgnored object.base = false) :
      Blames registry window (.unknownWidget object.base object.className object.name)
  | conversion {node : Node} {tag field raw : String} {converter : Converter}
      {cause : ConversionFault} (hnode : node = window ∨ window.HoldsObject node)
      (htag : node.tag? = some tag) (hreads : registry.Reads window node field converter)
      (hraw : node.elementText? field = some raw)
      (hcause : converter.convertText raw = .error cause) :
      Blames registry window (.conversion tag node.className field raw cause)
  | duplicateName {object other : Node} (hobject : window.HoldsObject object)
      (hother : window.HoldsObject other) (hne : other ≠ object)
      (hname : other.name = object.name) :
      Blames registry window (.duplicateMember object.className object.name window.className)
  | selfField {object : Node} {windowClass : WindowClass} (hobject : window.HoldsObject object)
      (hclass : registry.window? window.base = some windowClass)
      (hname : object.name = windowClass.selfField) :
      Blames registry window (.duplicateMember object.className object.name window.className)
  | emptyValue (tag className field : String) (raw : Option String) :
      Blames registry window (.emptyValue tag className field raw)
  | container (className name : String) (fault : ContainerFault) :
      Blames registry window (.container className name fault)

section Window
variable {registry : Registry} {window : Node}

/-- A text that is read and refused is to blame. -/
theorem blames_conversionFault {node : Node} {field raw : String} {converter : Converter}
    {cause : ConversionFault} (hnode : node = window ∨ window.HoldsObject node)
    (htag : node.tag? = some "object") (hreads : registry.Reads window node field converter)
    (hraw : (Source.element field).raw? ⟨node, none⟩ = some (.text raw))
    (hcause : converter.convert (.text raw) = .error cause) :
    registry.Blames window (node.conversionFault field raw cause) := by
  have htext : node.elementText? field = some raw := by
    simpa [Source.raw?] using hraw
  have hfault : node.conversionFault field raw cause =
      .conversion "object" node.className field raw cause := by
    rw [Node.conversionFault, Node.tagOrEmpty, htag, Option.getD_some]
  rw [hfault]
  exact .conversion hnode htag hreads htext (Converter.convert_text_eq_error.mp hcause)

variable (hwf : window.document.WellFormed)
include hwf

/-- What the visit of a member converts stands in the window. -/
theorem holdsObject_of_converts {object : Node} {scope : Scope} {source : Source}
    {converter : Converter} (hobject : object ∈ registry.members window)
    (h : registry.Converts object scope source converter) : window.HoldsObject scope.node := by
  have hheld := holdsObject_of_mem_members hwf hobject
  cases h with
  | property | argument => exact hheld
  | item _ hslot => exact holdsObject_of_mem_slots hwf hheld hslot
  | proportion _ _ hslot => exact holdsObject_of_mem_slots hwf hheld hslot
  | extent _ _ hslot hspacer =>
    have hitem := holdsObject_of_mem_slots hwf hheld hslot
    exact holdsObject_of_mem_objects hwf (Or.inr hitem) hspacer

/-- A name that is taken is the window's own or that of an object before. -/
theorem blames_of_isTaken {windowClass : WindowClass} {setters : List SetterCall}
    {before after : List Pending} {pending : Pending} {plan : WindowPlan}
    (hclass : registry.window? window.base = some windowClass)
    (hlisting : registry.listing window windowClass = before ++ pending :: after)
    (hbefore : before.foldlM (addObject registry) (startPlan window windowClass setters) = .ok plan)
    (htaken : plan.isTaken pending.node.name = true) :
    registry.Blames window
      (.duplicateMember pending.node.className pending.node.name plan.name) := by
  have hmembers : before.map Pending.node ++ pending.node :: after.map Pending.node =
      registry.members window := by
    rw [← registry.map_node_listing windowClass, hlisting, List.map_append, List.map_cons]
  have hheld : ∀ node ∈ before.map Pending.node ++ pending.node :: after.map Pending.node,
      window.HoldsObject node :=
    fun node hnode => holdsObject_of_mem_members hwf (hmembers ▸ hnode)
  have hobject := hheld pending.node (by simp)
  obtain ⟨placements, rfl, rfl, -, -⟩ := placements_of_foldlM hbefore
  have hname : (placements.foldl WindowPlan.add
      (startPlan window windowClass setters)).name = window.className :=
    constant_foldl placements _ fun _ _ => rfl
  rw [hname]
  rcases (isTaken_foldl placements _).mp htaken with hself | ⟨placement, hplacement, heq⟩
  · have hself' : pending.node.name = windowClass.selfField := by
      simpa [WindowPlan.isTaken, startPlan] using hself
    exact .selfField hobject hclass hself'
  · have hearlier : placement.pending.node ∈
        (placements.map Placement.pending).map Pending.node :=
      List.mem_map_of_mem (List.mem_map_of_mem hplacement)
    have hother := hheld _ (List.mem_append_left _ hearlier)
    refine .duplicateName hobject hother (fun hsame => ?_) heq
    -- The members are listed once, so the object is none of those before it.
    have hnodup : (registry.members window).Nodup := nodup_members hwf
    rw [← hmembers] at hnodup
    exact (List.nodup_append'.mp hnodup).2.2 hearlier (hsame ▸ List.mem_cons_self)

/-- **The walk blames what is there.** -/
theorem blames_walk (hregistry : registry.RefusesTextsOnly) {windowClass : WindowClass}
    (setters : List SetterCall) (hclass : registry.window? window.base = some windowClass) :
    FailsOnlyWith (registry.Blames window)
      (walk registry (List.range window.document.size) (topObjects window windowClass)
        (startPlan window windowClass setters)).result := by
  intro fault h
  rw [result_walk_window windowClass hwf] at h
  obtain ⟨before, pending, after, plan, hlisting, hbefore, hadd⟩ := split_of_foldlM_error h
  have hmember : pending.node ∈ registry.members window := by
    rw [← registry.map_node_listing windowClass, hlisting]
    simp
  cases faultOf_addObject registry plan pending fault hadd with
  | unknownWidget hdescriptor =>
    exact .unknownObject (holdsObject_of_mem_members hwf hmember) hdescriptor
      (not_ignored_of_mem_members hwf hmember)
  | conversion hconverts hraw hcause =>
    obtain ⟨tag, rfl⟩ := hconverts.element_of_refused hregistry hraw hcause
    obtain ⟨content, hcontent, rfl⟩ := Option.map_eq_some_iff.mp hraw
    have hheld := holdsObject_of_converts hwf hmember hconverts
    exact blames_conversionFault (Or.inr hheld) hheld.tag_eq (.member hmember hconverts) hraw hcause
  | emptyValue => exact .emptyValue _ _ _ _
  | container => exact .container _ _ _
  | duplicateMember htaken => exact blames_of_isTaken hwf hclass hlisting hbefore htaken

/-- **A window blames what is there.** -/
theorem blames_resolveWindow (hregistry : registry.RefusesTextsOnly)
    (htag : window.tag? = some "object") :
    FailsOnlyWith (registry.Blames window) (resolveWindow registry window).result := by
  refine failsOnlyWith_resolveWindow .emptyValue .unknownWindow ?_ ?_
  · intro windowClass hclass property hproperty raw cause hraw hcause
    obtain ⟨content, -, rfl⟩ := Option.map_eq_some_iff.mp hraw
    exact blames_conversionFault (Or.inl rfl) htag (.window hclass hproperty) hraw hcause
  · exact fun windowClass setters hclass => blames_walk hwf hregistry setters hclass

end Window

/-! ### The fault of a document -/

/-- **If a document cannot be resolved, the fault is there**: the document has no application or
several, or the first window that cannot be resolved on its own has the fault, and what the fault
says stands in that window. -/
theorem blames_of_planWindows {text : String} {fault : ResolutionFault}
    (h : (planWindows text).result = .error (.resolution fault)) : ∃ document,
      Document.parse text = .ok document ∧
      ((fault = .noApplication ∨ fault = .manyApplications) ∨
        ∃ before window after, document.HasWindows (before ++ window :: after) ∧
          (∀ earlier ∈ before, ∃ plan, (resolveWindow .wxgo earlier).result = .ok plan) ∧
          (resolveWindow .wxgo window).result = .error fault ∧
          Registry.wxgo.Blames window fault) := by
  obtain ⟨document, hparse, happlication | ⟨before, window, after, hwindows, hbefore, hfault⟩⟩ :=
    planWindows_eq_resolution h
  · exact ⟨document, hparse, Or.inl happlication⟩
  · have hwindow : window ∈ before ++ window :: after := by simp
    have hwf : window.document.WellFormed :=
      hwindows.document_eq hwindow ▸ Document.wellFormed_of_parse hparse
    have htag : window.tag? = some "object" := by
      obtain ⟨application, -, hobjects⟩ := hwindows
      have hobject : window ∈ application.objects := hobjects ▸ hwindow
      exact beq_iff_eq.mp (List.mem_filter.mp hobject).2
    exact ⟨document, hparse, Or.inr ⟨before, window, after, hwindows, hbefore, hfault,
      blames_resolveWindow hwf refusesTextsOnly_wxgo htag fault hfault⟩⟩

/-- The text of two windows, the second with a spacer whose width is not a number. -/
def spacerText : String :=
  "<application><object class='First' name='first' base='EditDialog'
    /><object class='Main' name='main' base='EditFrame'
      ><object class='wxBoxSizer' name='row' base='EditBoxSizer'><orient>wxHORIZONTAL</orient
        ><object class='sizeritem'><object class='spacer' name='gap' base='EditSpacer'
          ><width>wide</width></object></object></object></object></application>"

set_option maxRecDepth 20000 in
theorem planWindows_spacerText : (planWindows spacerText).result = .error (.resolution
    (.conversion "object" "spacer" "width" "wide" (.literal (.notInteger .invalidDigit)))) := by
  have hfault : (match (planWindows spacerText).result with
      | .error fault => some fault
      | .ok _ => none) = some (.resolution
        (.conversion "object" "spacer" "width" "wide" (.literal (.notInteger .invalidDigit)))) := by
    rw [result_planWindows, Document.parse, show spacerText.toList = _ from String.toList_ofList]
    decide +kernel
  cases hplans : (planWindows spacerText).result with
  | ok plans => rw [hplans] at hfault; cases hfault
  | error fault => rw [hplans] at hfault; exact congrArg Except.error (Option.some.inj hfault)

theorem blames_of_planWindows_spacerText : ∃ document before window after node converter cause,
    (planWindows spacerText).result =
      .error (.resolution (.conversion "object" "spacer" "width" "wide" cause)) ∧
    cause.message = "not an integer (invalid digit found in string)" ∧
    Document.parse spacerText = .ok document ∧
    document.HasWindows (before ++ window :: after) ∧
    (∀ earlier ∈ before, ∃ plan, (resolveWindow .wxgo earlier).result = .ok plan) ∧
    Registry.wxgo.Reads window node "width" converter ∧ node.className = "spacer" ∧
    node.elementText? "width" = some "wide" ∧ converter.convertText "wide" = .error cause := by
  obtain ⟨document, hparse, hnone | ⟨before, window, after, hwindows, hbefore, -, hblames⟩⟩ :=
    blames_of_planWindows planWindows_spacerText
  · rcases hnone with h | h <;> cases h
  · obtain ⟨className, hclass⟩ : ∃ className, className = "spacer" := ⟨_, rfl⟩
    rw [← hclass] at hblames
    cases hblames with
    | @conversion node _ _ _ converter _ _ _ hreads hraw hcause =>
      exact ⟨document, before, window, after, node, converter, _, planWindows_spacerText,
        by decide, hparse, hwindows, hbefore, hreads, hclass, hraw, hcause⟩

end GladeGo
