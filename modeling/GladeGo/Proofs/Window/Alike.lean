import GladeGo.Proofs.Window.Simulation

/-! # Windows that are alike

What is resolved for a window depends on the tree of the window alone. Objects with the same tree
are read alike, and what stands in them has the same trees again, so that being alike is a
simulation (`isSimulation_alike`). Windows that are alike list objects that are alike, and adding
one or the other of these gives the same plan. -/

namespace GladeGo

namespace Node.Alike
variable {a b : Node} (h : Alike a b)
include h

theorem slots (rules : ContainerClass) : List.Forall₂ Alike (rules.slots a) (rules.slots b) := by
  unfold ContainerClass.slots
  cases rules.items with
  | none => exact .cons h .nil
  | some items =>
    refine List.rel_filter (fun x y halike => ?_) h.objects
    dsimp only
    rw [(halike.readsLike []).className]

theorem holdsLike (registry : Registry) (rules : ContainerClass) :
    registry.HoldsLike Alike rules a b where
  reads := h.readsLike _
  admits_eq := by rw [h.objects.length_eq]
  length_eq _ := h.objects.length_eq
  objects := by
    have hfilter : List.Forall₂ Alike (a.objects.filter registry.attaches)
        (b.objects.filter registry.attaches) := by
      refine List.rel_filter (fun x y halike => ?_) h.objects
      dsimp only [Registry.attaches]
      rw [(halike.readsLike []).base]
    refine hfilter.imp fun x y halike => ?_
    cases hspacer : registry.isSpacer x.base with
    | true => exact .spacer hspacer (halike.readsLike _)
    | false => exact .object hspacer halike

end Node.Alike

theorem isSimulation_alike (registry : Registry) : registry.IsSimulation Node.Alike where
  reads h := h.readsLike []
  reads_tags h _ _ := h.readsLike _
  slots h rules _ := (h.slots rules).imp fun _ _ hslot => hslot.holdsLike registry rules

namespace Node.Alike
variable {a b : Node} (h : Alike a b)
include h

theorem attribute? (key : String) : a.attribute? key = b.attribute? key :=
  (h.readsLike []).attribute? key

theorem attributeOrEmpty (key : String) : a.attributeOrEmpty key = b.attributeOrEmpty key :=
  (h.readsLike []).attributeOrEmpty key

theorem className : a.className = b.className := (h.readsLike []).className

theorem base : a.base = b.base := (h.readsLike []).base

theorem emptyValue (field : String) (raw : Option String) :
    a.emptyValue field raw = b.emptyValue field raw :=
  (h.readsLike []).emptyValue field raw

theorem setterCalls (field : Option String) (properties : List Property) :
    GladeGo.setterCalls field a properties = GladeGo.setterCalls field b properties :=
  (h.readsLike _).setterCalls field (List.Subset.refl _)

theorem startPlan (windowClass : WindowClass) (properties : List SetterCall) :
    startPlan a windowClass properties = startPlan b windowClass properties :=
  (h.readsLike _).startPlan properties

/-- Windows that are alike list objects that are alike. -/
theorem listing (registry : Registry) (windowClass : WindowClass) :
    List.Forall₂ (Pending.Like Alike) (registry.listing a windowClass)
      (registry.listing b windowClass) := by
  refine (isSimulation_alike registry).keepsKids.listing h.left h.right ?_ windowClass
  refine List.rel_filter (fun x y halike => ?_) h.objects
  dsimp only
  rw [halike.base]

end Node.Alike

/-- **Adding one or the other** of two objects that are alike gives the same plan, or the same
fault. -/
theorem addObject_alike {registry : Registry} {p q : Pending} (h : p.Like Node.Alike q)
    (plan : WindowPlan) : addObject registry plan p = addObject registry plan q :=
  (isSimulation_alike registry).addObject_eq h plan

/-- **What is resolved for a window depends on its tree alone**: windows with the same tree, in the
same document or in different ones, give the same plan or the same fault. -/
theorem resolveWindow_eq_of_tree_eq {registry : Registry} {a b : Node} {text text' : String}
    (hparse : Document.parse text = .ok a.document)
    (hparse' : Document.parse text' = .ok b.document) (htree : a.tree = b.tree) :
    (resolveWindow registry a).result = (resolveWindow registry b).result := by
  have h : a.Alike b :=
    ⟨Document.wellFormed_of_parse hparse, Document.wellFormed_of_parse hparse', htree⟩
  unfold resolveWindow
  simp only [h.base, h.className, h.attribute?, h.attributeOrEmpty, h.emptyValue, h.setterCalls]
  split
  · rfl
  · cases registry.window? b.base with
    | none => rfl
    | some windowClass =>
      simp only [Logged.result_bind, Logged.result_log, Logged.result_liftM, ok_bind]
      refine bind_congr fun setters => ?_
      rw [result_walk_window windowClass h.left, result_walk_window windowClass h.right,
        h.startPlan]
      refine foldlM_congr ((h.listing registry windowClass).imp fun p q hpq plan => ?_) _
      exact addObject_alike hpq plan

/-- The text of `sampleText` behind another window, with its texts and its empty element written in
other ways. -/
def variantText : String :=
  "<?xml version='1.0'?><!-- two windows --><application><object class='Other' base='EditDialog'
    /><object class='Main' name='main' base='EditFrame'
    ><object class='wxPanel' name='page' base='EditPanel'
      ><object class='wxBoxSizer' name='row' base='EditBoxSizer'
        ><orient>wx<![CDATA[VERTICAL]]></orient
        ><!-- placeholder --><object class='sizerslot'></object><object class='sizeritem'
          ><option>0</option><border>0</border
          ><object class='wxButton' name='ok' base='EditButton'><label>O&#75;</label></object
        ></object></object></object></object></application>"

/-- The document of `variantText`. -/
def variantDocument : Document where
  nodes := #[
    ⟨.document, none, #[1]⟩,
    ⟨.element "application" [], some 0, #[2, 3]⟩,
    ⟨.element "object" [("class", "Other"), ("base", "EditDialog")], some 1, #[]⟩,
    ⟨.element "object" [("class", "Main"), ("name", "main"), ("base", "EditFrame")], some 1, #[4]⟩,
    ⟨.element "object" [("class", "wxPanel"), ("name", "page"), ("base", "EditPanel")], some 3,
      #[5]⟩,
    ⟨.element "object" [("class", "wxBoxSizer"), ("name", "row"), ("base", "EditBoxSizer")], some 4,
      #[6, 9, 10]⟩,
    ⟨.element "orient" [], some 5, #[7, 8]⟩,
    ⟨.text "wx", some 6, #[]⟩,
    ⟨.text "VERTICAL", some 6, #[]⟩,
    ⟨.element "object" [("class", "sizerslot")], some 5, #[]⟩,
    ⟨.element "object" [("class", "sizeritem")], some 5, #[11, 13, 15]⟩,
    ⟨.element "option" [], some 10, #[12]⟩,
    ⟨.text "0", some 11, #[]⟩,
    ⟨.element "border" [], some 10, #[14]⟩,
    ⟨.text "0", some 13, #[]⟩,
    ⟨.element "object" [("class", "wxButton"), ("name", "ok"), ("base", "EditButton")], some 10,
      #[16]⟩,
    ⟨.element "label" [], some 15, #[17]⟩,
    ⟨.text "OK", some 16, #[]⟩]

/-- The window of the variant that has the tree of `sampleWindow`. -/
def variantWindow : Node := variantDocument.node 3

set_option maxRecDepth 10000 in
theorem parse_variantText : Document.parse variantText = .ok variantWindow.document := by
  apply eq_ok_of_toOption
  rw [Document.parse, show variantText.toList = _ from String.toList_ofList]
  decide +kernel

theorem resolveWindow_eq_of_tree_eq_sampleWindow : sampleWindow.tree = variantWindow.tree ∧
    ∃ plan, (resolveWindow .wxgo sampleWindow).result = .ok plan ∧
      (resolveWindow .wxgo variantWindow).result = .ok plan := by
  have htree : sampleWindow.tree = variantWindow.tree := by decide +kernel
  obtain ⟨plan, hplan⟩ := resolveWindow_sampleWindow
  refine ⟨htree, plan, hplan, ?_⟩
  rw [← resolveWindow_eq_of_tree_eq parse_sampleText parse_variantText htree]
  exact hplan

end GladeGo
