import GladeGo.Proofs.Window.Layout

/-! # The sizer of a window

A window installs as its sizer the first container that the walk comes to. Only a container has
kids, so if no container stands directly in the window there are no members below the first level
(`deeper_eq_nil`), and the first container that the walk comes to always stands directly in the
window. Members of the first level are not attached, so no call attaches the sizer. -/

namespace GladeGo

/-- The first container directly in a window, in document order, that is not passed over. -/
def Registry.topContainer? (registry : Registry) (window : Node) : Option Node :=
  (registry.roots window).find? fun object => (registry.container? object).isSome

section Window
variable {registry : Registry} {window : Node}

theorem topContainer?_eq_none_iff : registry.topContainer? window = none ↔
    ∀ object ∈ window.objects, registry.isIgnored object.base = false →
      registry.container? object = none := by
  simp [Registry.topContainer?, Registry.roots]

/-- **Without a container directly in the window** there are no members below the first level. -/
theorem deeper_eq_nil (h : registry.topContainer? window = none) : registry.deeper window = [] := by
  have hkids : (registry.roots window).flatMap registry.kids = [] := by
    refine List.flatMap_eq_nil_iff.mpr fun object hobject => ?_
    have hnone := List.find?_eq_none.mp h object hobject
    rw [Registry.kids, Option.not_isSome_iff_eq_none.mp hnone]
  rw [Registry.deeper, hkids, levelOrder_nil]

/-- The first container among the members is the first one directly in the window. -/
theorem find?_members (hwf : window.document.WellFormed) :
    (registry.members window).find? (fun member => (registry.container? member).isSome) =
      registry.topContainer? window := by
  rw [members_eq_append hwf, List.find?_append]
  change (registry.topContainer? window).or _ = _
  cases htop : registry.topContainer? window with
  | some object => rfl
  | none => rw [deeper_eq_nil htop]; rfl

theorem Resolution.sizerField_eq_topContainer? {plan : WindowPlan}
    (resolution : Resolution registry window plan) (hwf : window.document.WellFormed) :
    plan.sizerField = (registry.topContainer? window).map Node.name := by
  have hwidget : (fun placement : Placement registry => placement.widget.container.isSome) =
      (fun member => (registry.container? member).isSome) ∘
        fun placement : Placement registry => placement.pending.node :=
    funext fun placement => congrArg Option.isSome placement.container_eq
  rw [resolution.sizerField_eq, hwidget, ← find?_members hwf, ← resolution.nodes_eq,
    List.find?_map, Option.map_map]
  rfl

end Window

/-- **The sizer of a window** is the first container directly in it, in document order, that is not
passed over. There is none exactly if no such container stands directly in the window, however many
there are deeper inside; and no call attaches the sizer to another container. -/
theorem sizerField_of_resolveWindow {registry : Registry} {window : Node} {text : String}
    {plan : WindowPlan} (hparse : Document.parse text = .ok window.document)
    (hplan : (resolveWindow registry window).result = .ok plan) :
    plan.sizerField = (registry.topContainer? window).map Node.name ∧
    (registry.roots window).Pairwise (fun a b => a.number < b.number) ∧
    (plan.sizerField = none ↔ ∀ object ∈ window.objects, registry.isIgnored object.base = false →
      registry.container? object = none) ∧
    ∀ name ∈ plan.sizerField, ∀ call ∈ plan.layout, call.child ≠ .member name := by
  have hwf := Document.wellFormed_of_parse hparse
  obtain ⟨resolution⟩ := exists_resolution hwf hplan
  have hsizer := resolution.sizerField_eq_topContainer? hwf
  refine ⟨hsizer, (Node.objects_ordered hwf).filter _, ?_, fun name hname call hcall => ?_⟩
  · rw [hsizer, Option.map_eq_none_iff, topContainer?_eq_none_iff]
  · rw [hsizer] at hname
    obtain ⟨object, hobject, rfl⟩ := Option.map_eq_some_iff.mp hname
    exact resolution.not_attached hwf (List.mem_of_find?_eq_some hobject) hcall

/-- The text of a window with a spacer and a button before two containers, the first of which holds
a third one. -/
def sizersText : String :=
  "<application><object class='Main' name='main' base='EditFrame'
    ><object class='spacer' name='gap' base='EditSpacer'/><object class='wxButton' name='ok'
      base='EditButton'><label>OK</label></object
    ><object class='wxPanel' name='page' base='EditPanel'
      ><object class='wxBoxSizer' name='inner' base='EditBoxSizer'><orient>wxVERTICAL</orient
      ></object></object
    ><object class='wxBoxSizer' name='outer' base='EditBoxSizer'><orient>wxVERTICAL</orient></object
  ></object></application>"

/-- The document of `sizersText`. -/
def sizersDocument : Document where
  nodes := #[
    ⟨.document, none, #[1]⟩,
    ⟨.element "application" [], some 0, #[2]⟩,
    ⟨.element "object" [("class", "Main"), ("name", "main"), ("base", "EditFrame")], some 1,
      #[3, 4, 7, 11]⟩,
    ⟨.element "object" [("class", "spacer"), ("name", "gap"), ("base", "EditSpacer")], some 2, #[]⟩,
    ⟨.element "object" [("class", "wxButton"), ("name", "ok"), ("base", "EditButton")], some 2,
      #[5]⟩,
    ⟨.element "label" [], some 4, #[6]⟩,
    ⟨.text "OK", some 5, #[]⟩,
    ⟨.element "object" [("class", "wxPanel"), ("name", "page"), ("base", "EditPanel")], some 2,
      #[8]⟩,
    ⟨.element "object" [("class", "wxBoxSizer"), ("name", "inner"), ("base", "EditBoxSizer")],
      some 7, #[9]⟩,
    ⟨.element "orient" [], some 8, #[10]⟩,
    ⟨.text "wxVERTICAL", some 9, #[]⟩,
    ⟨.element "object" [("class", "wxBoxSizer"), ("name", "outer"), ("base", "EditBoxSizer")],
      some 2, #[12]⟩,
    ⟨.element "orient" [], some 11, #[13]⟩,
    ⟨.text "wxVERTICAL", some 12, #[]⟩]

/-- The window of `sizersText`. -/
def sizersWindow : Node := sizersDocument.node 2

set_option maxRecDepth 10000 in
theorem parse_sizersText : Document.parse sizersText = .ok sizersWindow.document := by
  apply eq_ok_of_toOption
  rw [Document.parse, show sizersText.toList = _ from String.toList_ofList]
  decide +kernel

theorem sizerField_of_resolveWindow_sizersWindow : ∃ plan,
    (resolveWindow .wxgo sizersWindow).result = .ok plan ∧ plan.sizerField = some "page" ∧
    plan.layout.map LayoutCall.child = [.member "inner"] ∧
    ∀ call ∈ plan.layout, call.child ≠ .member "page" := by
  have hplan : ((resolveWindow .wxgo sizersWindow).result.toOption.map fun plan =>
      plan.layout.map LayoutCall.child) = some [.member "inner"] := by decide +kernel
  obtain ⟨plan, hok, hlayout⟩ := Option.map_eq_some_iff.mp hplan
  obtain ⟨hsizer, -, -, hcalls⟩ :=
    sizerField_of_resolveWindow parse_sizersText (eq_ok_of_toOption hok)
  have htop : (Registry.wxgo.topContainer? sizersWindow).map Node.name = some "page" := by
    decide +kernel
  rw [htop] at hsizer
  exact ⟨plan, eq_ok_of_toOption hok, hsizer, hlayout, hcalls "page" hsizer⟩

end GladeGo
