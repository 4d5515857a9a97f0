import GladeGo.Proofs.Document.Parse
import GladeGo.Proofs.Window.Listing
import GladeGo.Widget.WxGo

/-! # Resolved windows

A window whose own checks succeed is resolved by adding its members in level order
(`resolveWindow_eq_foldlM`). If that succeeds the plan is known entry by entry: a `Resolution` lists
the placements of the members, and each part of the plan is read off them. -/

namespace GladeGo

theorem result_resolveWindow {registry : Registry} {window : Node} {windowClass : WindowClass}
    {setters : List SetterCall} (hname : window.className ≠ "")
    (hclass : registry.window? window.base = some windowClass)
    (hsetters : setterCalls none window windowClass.properties = .ok setters) :
    (resolveWindow registry window).result =
      (walk registry (List.range window.document.size) (topObjects window windowClass)
        (startPlan window windowClass setters)).result := by
  unfold resolveWindow
  simp only [if_neg hname, hclass, Logged.result_bind, Logged.result_log, Logged.result_liftM,
    hsetters, ok_bind]

/-- The checks of a window that is resolved have succeeded. -/
theorem resolveWindow_ok {registry : Registry} {window : Node} {plan : WindowPlan}
    (h : (resolveWindow registry window).result = .ok plan) :
    ∃ windowClass setters, window.className ≠ "" ∧
      registry.window? window.base = some windowClass ∧
      setterCalls none window windowClass.properties = .ok setters := by
  unfold resolveWindow at h
  by_cases hname : window.className = ""
  · simp only [if_pos hname] at h
    cases h
  · simp only [if_neg hname] at h
    cases hclass : registry.window? window.base with
    | none => rw [hclass] at h; cases h
    | some windowClass =>
      simp only [hclass, Logged.result_bind, Logged.result_log, Logged.result_liftM, ok_bind,
        bind_eq_ok] at h
      obtain ⟨setters, hsetters, -⟩ := h
      exact ⟨windowClass, setters, hname, rfl, hsetters⟩

/-- The plan of a window, as its members in level order have made it. -/
structure Resolution (registry : Registry) (window : Node) (plan : WindowPlan) where
  windowClass : WindowClass
  setters : List SetterCall
  placements : List (Placement registry)
  setters_eq : setterCalls none window windowClass.properties = .ok setters
  pendings_eq : placements.map Placement.pending = registry.listing window windowClass
  plan_eq : plan = placements.foldl WindowPlan.add (startPlan window windowClass setters)
  nodup : (placements.map Placement.name).Nodup
  name_ne : ∀ placement ∈ placements, placement.name ≠ windowClass.selfField

theorem exists_resolution {registry : Registry} {window : Node} {plan : WindowPlan}
    (hwf : window.document.WellFormed) (h : (resolveWindow registry window).result = .ok plan) :
    Nonempty (Resolution registry window plan) := by
  obtain ⟨windowClass, setters, hname, hclass, hsetters⟩ := resolveWindow_ok h
  rw [result_resolveWindow hname hclass hsetters, result_walk_window windowClass hwf] at h
  obtain ⟨placements, hpendings, hplan, hnodup, hfree⟩ := placements_of_foldlM h
  exact ⟨windowClass, setters, placements, hsetters, hpendings, hplan, hnodup,
    fun placement hmem => (WindowPlan.isTaken_eq_false_iff.mp (hfree placement hmem)).1⟩

namespace Resolution
variable {registry : Registry} {window : Node} {plan : WindowPlan}
  (resolution : Resolution registry window plan)

theorem members_eq : plan.members = resolution.placements.map Placement.member :=
  (congrArg WindowPlan.members resolution.plan_eq).trans (members_foldl resolution.placements _)

theorem constructions_eq :
    plan.constructions = resolution.placements.map Placement.construction :=
  (congrArg WindowPlan.constructions resolution.plan_eq).trans
    (constructions_foldl resolution.placements _)

theorem properties_eq : plan.properties =
    resolution.setters ++ resolution.placements.flatMap Placement.setters :=
  (congrArg WindowPlan.properties resolution.plan_eq).trans
    (properties_foldl resolution.placements _)

theorem layout_eq : plan.layout = resolution.placements.flatMap Placement.calls :=
  (congrArg WindowPlan.layout resolution.plan_eq).trans (layout_foldl resolution.placements _)

theorem bindings_eq : plan.bindings = resolution.placements.flatMap Placement.bindings :=
  (congrArg WindowPlan.bindings resolution.plan_eq).trans (bindings_foldl resolution.placements _)

theorem selfField_eq : plan.selfField = resolution.windowClass.selfField :=
  (congrArg WindowPlan.selfField resolution.plan_eq).trans (selfField_foldl resolution.placements _)

theorem sizerField_eq : plan.sizerField =
    (resolution.placements.find? fun placement => placement.widget.container.isSome).map
      Placement.name :=
  (congrArg WindowPlan.sizerField resolution.plan_eq).trans
    (sizerField_foldl resolution.placements _)

theorem nodes_eq :
    resolution.placements.map (fun placement => placement.pending.node) =
      registry.members window := by
  rw [← registry.map_node_listing resolution.windowClass, ← resolution.pendings_eq, List.map_map]
  rfl

theorem names_eq : resolution.placements.map Placement.name =
    (registry.members window).map Node.name := by
  rw [← resolution.nodes_eq, List.map_map]
  rfl

include resolution in
theorem plan_names_eq : plan.names = (registry.members window).map Node.name := by
  rw [← resolution.names_eq, WindowPlan.names, resolution.members_eq, List.map_map]
  rfl

end Resolution

/-! ### The order of the members -/

/-- **A window is resolved by adding its members in level order**: with the same plan, and with the
same fault. Its members are the elements of the forest of `kids` over the objects in the window. -/
theorem resolveWindow_eq_foldlM {registry : Registry} {window : Node} {text : String}
    {windowClass : WindowClass} {setters : List SetterCall}
    (hparse : Document.parse text = .ok window.document) (hname : window.className ≠ "")
    (hclass : registry.window? window.base = some windowClass)
    (hsetters : setterCalls none window windowClass.properties = .ok setters) :
    (resolveWindow registry window).result =
      (registry.listing window windowClass).foldlM (addObject registry)
        (startPlan window windowClass setters) ∧
    (registry.listing window windowClass).map Pending.node = registry.members window ∧
    (∀ object, object ∈ registry.members window ↔
      InForest registry.kids (registry.roots window) object) ∧
    (registry.members window).Nodup ∧
    ∀ plan, (resolveWindow registry window).result = .ok plan →
      plan.members.map Member.name = (registry.members window).map Node.name ∧
      plan.constructions.map Construction.field = (registry.members window).map Node.name ∧
      ((registry.members window).map Node.name).Nodup := by
  have hwf := Document.wellFormed_of_parse hparse
  refine ⟨?_, registry.map_node_listing windowClass, fun object => mem_members_iff hwf,
    nodup_members hwf, fun plan hplan => ?_⟩
  · rw [result_resolveWindow hname hclass hsetters, result_walk_window windowClass hwf]
  · obtain ⟨resolution⟩ := exists_resolution hwf hplan
    refine ⟨resolution.plan_names_eq, ?_, resolution.names_eq ▸ resolution.nodup⟩
    rw [← resolution.names_eq, resolution.constructions_eq, List.map_map]
    rfl

/-- The text of a window with a button in a sizer in a panel. -/
def sampleText : String :=
  "<application><object class='Main' name='main' base='EditFrame'
    ><object class='wxPanel' name='page' base='EditPanel'
      ><object class='wxBoxSizer' name='row' base='EditBoxSizer'><orient>wxVERTICAL</orient
        ><object class='sizerslot'/><object class='sizeritem'
          ><option>0</option><border>0</border
          ><object class='wxButton' name='ok' base='EditButton'><label>OK</label></object
        ></object></object></object></object></application>"

/-- The document of `sampleText`. -/
def sampleDocument : Document where
  nodes := #[
    ⟨.document, none, #[1]⟩,
    ⟨.element "application" [], some 0, #[2]⟩,
    ⟨.element "object" [("class", "Main"), ("name", "main"), ("base", "EditFrame")], some 1, #[3]⟩,
    ⟨.element "object" [("class", "wxPanel"), ("name", "page"), ("base", "EditPanel")], some 2,
      #[4]⟩,
    ⟨.element "object" [("class", "wxBoxSizer"), ("name", "row"), ("base", "EditBoxSizer")], some 3,
      #[5, 7, 8]⟩,
    ⟨.element "orient" [], some 4, #[6]⟩,
    ⟨.text "wxVERTICAL", some 5, #[]⟩,
    ⟨.element "object" [("class", "sizerslot")], some 4, #[]⟩,
    ⟨.element "object" [("class", "sizeritem")], some 4, #[9, 11, 13]⟩,
    ⟨.element "option" [], some 8, #[10]⟩,
    ⟨.text "0", some 9, #[]⟩,
    ⟨.element "border" [], some 8, #[12]⟩,
    ⟨.text "0", some 11, #[]⟩,
    ⟨.element "object" [("class", "wxButton"), ("name", "ok"), ("base", "EditButton")], some 8,
      #[14]⟩,
    ⟨.element "label" [], some 13, #[15]⟩,
    ⟨.text "OK", some 14, #[]⟩]

/-- The window of the sample. -/
def sampleWindow : Node := sampleDocument.node 2

set_option maxRecDepth 10000 in
theorem parse_sampleText : Document.parse sampleText = .ok sampleWindow.document := by
  apply eq_ok_of_toOption
  rw [Document.parse, show sampleText.toList = _ from String.toList_ofList]
  decide +kernel

theorem resolveWindow_sampleWindow :
    ∃ plan, (resolveWindow .wxgo sampleWindow).result = .ok plan := by
  have h : (resolveWindow .wxgo sampleWindow).result.toOption.isSome = true := by decide +kernel
  obtain ⟨plan, hplan⟩ := Option.isSome_iff_exists.mp h
  exact ⟨plan, eq_ok_of_toOption hplan⟩

theorem resolveWindow_eq_foldlM_sampleWindow : ∃ windowClass setters plan,
    (resolveWindow .wxgo sampleWindow).result =
      (Registry.wxgo.listing sampleWindow windowClass).foldlM (addObject .wxgo)
        (startPlan sampleWindow windowClass setters) ∧
    Registry.wxgo.members sampleWindow =
      [sampleDocument.node 3, sampleDocument.node 4, sampleDocument.node 13] ∧
    (resolveWindow .wxgo sampleWindow).result = .ok plan ∧
    plan.constructions.map Construction.field = ["page", "row", "ok"] := by
  have hsetters : (setterCalls none sampleWindow (wxWindow "Frame").properties).toOption =
      some [] := by decide +kernel
  obtain ⟨plan, hplan⟩ := resolveWindow_sampleWindow
  obtain ⟨hfold, -, -, -, hok⟩ := resolveWindow_eq_foldlM parse_sampleText
    (by decide +kernel) (rfl : Registry.wxgo.window? sampleWindow.base = _)
    (eq_ok_of_toOption hsetters)
  refine ⟨wxWindow "Frame", [], plan, hfold, by decide +kernel, hplan, ?_⟩
  rw [(hok plan hplan).2.1]
  decide +kernel

end GladeGo
