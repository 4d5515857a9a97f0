import GladeGo.Proofs.Window.Simulation

/-! # What is read of a document

Of a document, resolving reads some elements only. Which ones is decided from the outside in, since
an element is read as what the elements around it make of it (`Role`): a box sizer reads its items
but not its placeholders, an item the objects in it, and a widget that holds no others only the
child elements that its class asks for. `ElementTree.excerpt` is what is left of an element when all
else is cut out of it, and `Document.excerpt` what is left of a document. To leave the same is a
simulation (`isSimulation_sameExcerpt`), so that what is cut out has no influence on what a document
is resolved to. -/

namespace GladeGo

/-! ### Excerpts -/

/-- What an element is read as. -/
inductive Role where
  | application
  | window
  | object
  /-- An item of a container. -/
  | item (rules : ContainerClass)
  /-- A spacer in a container. -/
  | spacer
  /-- An object in a container that is passed over, but counted. -/
  | passedOver
  /-- An element that is read for the text and the elements in it. -/
  | content

/-- The value of an attribute, with an absent one read as empty. -/
def valueIn (attributes : List (String × String)) (key : String) : String :=
  (attributes.lookup key).getD ""

namespace Registry
variable (registry : Registry)

/-- The child elements that are read of an element with the given base, besides its objects. -/
def tagsIn (base : String) : Role → List String
  | .window => ((registry.window? base).map WindowClass.tags).getD []
  | .object => ((registry.descriptor? base).map Descriptor.tags).getD []
  | .item rules => rules.itemTags
  | .spacer => spacerTags
  | .application | .passedOver | .content => []

/-- What an object with the given base is read as in a slot of a container. -/
def slotRole (base : String) : Role :=
  if registry.isSpacer base then .spacer
  else if registry.isIgnored base then .passedOver
  else .object

/-- What an object with the given attributes is read as in an element with the given base, if it is
read at all. -/
def objectRole? (base : String) (attributes : List (String × String)) : Role → Option Role
  | .application => some .window
  | .window => if registry.isIgnored (valueIn attributes "base") then none else some .object
  | .object =>
    match (registry.descriptor? base).bind Descriptor.container? with
    | none => none
    | some rules =>
      match rules.items with
      | none => some (registry.slotRole (valueIn attributes "base"))
      | some items =>
        if some (valueIn attributes "class") != items.placeholder then some (.item rules) else none
  | .item _ => some (registry.slotRole (valueIn attributes "base"))
  | .spacer | .passedOver | .content => none

/-- What a child element of an element with the given base is read as, if it is read at all. -/
def childRole? (base : String) (role : Role) (tag : String) (attributes : List (String × String)) :
    Option Role :=
  if tag = "object" then registry.objectRole? base attributes role
  else if tag ∈ registry.tagsIn base role then some .content
  else none

end Registry

namespace ElementTree
variable (registry : Registry)

mutual

/-- What is left of an element if all is cut out that is not read. The text of an element is read of
contents only, and these are left as they are. -/
def excerpt : Role → ElementTree → ElementTree
  | .content, tree => tree
  | role, element tag attributes _ children =>
    element tag attributes "" (excerpts role (valueIn attributes "base") children)

/-- What is left of the child elements of an element with the given base. -/
def excerpts (role : Role) (base : String) : List ElementTree → List ElementTree
  | [] => []
  | child :: children =>
    match registry.childRole? base role child.tag child.attributes with
    | none => excerpts role base children
    | some inner => excerpt inner child :: excerpts role base children

end

theorem excerpts_eq_filterMap (role : Role) (base : String) (children : List ElementTree) :
    excerpts registry role base children = children.filterMap fun child =>
      (registry.childRole? base role child.tag child.attributes).map fun inner =>
        excerpt registry inner child := by
  induction children with
  | nil => simp [excerpts]
  | cons child children ih =>
    rw [excerpts, List.filterMap_cons, ih]
    cases registry.childRole? base role child.tag child.attributes <;> rfl

@[simp] theorem tag_excerpt (role : Role) (tree : ElementTree) :
    (excerpt registry role tree).tag = tree.tag := by
  cases tree
  cases role <;> simp [excerpt, tag]

@[simp] theorem attributes_excerpt (role : Role) (tree : ElementTree) :
    (excerpt registry role tree).attributes = tree.attributes := by
  cases tree
  cases role <;> simp [excerpt, attributes]

/-- Nothing is read as an element in a content. -/
theorem childRole?_content (base tag : String) (attributes : List (String × String)) :
    registry.childRole? base .content tag attributes = none := by
  unfold Registry.childRole?
  split <;> simp [Registry.objectRole?, Registry.tagsIn]

theorem children_excerpt {role : Role} (hrole : role ≠ .content) (tree : ElementTree) :
    (excerpt registry role tree).children =
      excerpts registry role (valueIn tree.attributes "base") tree.children := by
  cases tree
  cases role <;> first | exact absurd rfl hrole | simp [excerpt, attributes, children]

end ElementTree

/-- What is left of a document if all is cut out that is not read. -/
def Document.excerpt (registry : Registry) (document : Document) : List ElementTree :=
  (document.root.elementsTagged "application").map fun application =>
    application.tree.excerpt registry .application

/-! ### Elements that leave the same -/

namespace Node

theorem tag_tree (node : Node) : node.tree.tag = node.tagOrEmpty := by
  unfold tree
  cases node.document.size <;> rfl

theorem attributes_tree (node : Node) : node.tree.attributes = node.attributes := by
  unfold tree
  cases node.document.size <;> rfl

/-- Elements of which the same is left, each in a well-formed document. -/
structure SameExcerpt (registry : Registry) (role : Role) (a b : Node) : Prop where
  left : a.document.WellFormed
  right : b.document.WellFormed
  excerpt_eq : a.tree.excerpt registry role = b.tree.excerpt registry role

namespace SameExcerpt
variable {registry : Registry} {role : Role} {a b : Node} (h : SameExcerpt registry role a b)

theorem alike (h : SameExcerpt registry .content a b) : a.Alike b where
  left := h.left
  right := h.right
  tree_eq := by simpa [ElementTree.excerpt] using h.excerpt_eq

include h

theorem tagOrEmpty : a.tagOrEmpty = b.tagOrEmpty := by
  have htag := congrArg ElementTree.tag h.excerpt_eq
  simpa only [ElementTree.tag_excerpt, tag_tree] using htag

theorem attributes : a.attributes = b.attributes := by
  have hattributes := congrArg ElementTree.attributes h.excerpt_eq
  simpa only [ElementTree.attributes_excerpt, attributes_tree] using hattributes

theorem base : a.base = b.base := by
  change valueIn a.attributes "base" = valueIn b.attributes "base"
  rw [h.attributes]

/-- The child elements that are read of the two elements leave the same, one by one. -/
theorem elements : List.Forall₂
    (fun x y => ∃ inner, registry.childRole? a.base role x.tagOrEmpty x.attributes = some inner ∧
      SameExcerpt registry inner x y)
    (a.elements.filter fun x => (registry.childRole? a.base role x.tagOrEmpty x.attributes).isSome)
    (b.elements.filter fun x =>
      (registry.childRole? a.base role x.tagOrEmpty x.attributes).isSome) := by
  by_cases hrole : role = .content
  · subst hrole
    simp [ElementTree.childRole?_content]
  have hchildren := congrArg ElementTree.children h.excerpt_eq
  rw [ElementTree.children_excerpt registry hrole, ElementTree.children_excerpt registry hrole,
    ElementTree.excerpts_eq_filterMap, ElementTree.excerpts_eq_filterMap, attributes_tree,
    attributes_tree, Node.tree_eq h.left, Node.tree_eq h.right, ← h.attributes] at hchildren
  simp only [ElementTree.children, List.filterMap_map, Function.comp_def, tag_tree,
    attributes_tree] at hchildren
  have hread := forall₂_of_filterMap_eq hchildren
  simp only [Option.isSome_map] at hread
  refine (forall₂_and_mem hread).imp fun x y ⟨hxy, hx, hy⟩ => ?_
  obtain ⟨tree, hleft, hright⟩ := hxy
  obtain ⟨inner, hinner, rfl⟩ := Option.map_eq_some_iff.mp hleft
  obtain ⟨inner', hinner', hexcerpt⟩ := Option.map_eq_some_iff.mp hright
  -- What is left of an element shows its tag and its attributes, and by these it is read.
  have htag := congrArg ElementTree.tag hexcerpt
  have hattributes := congrArg ElementTree.attributes hexcerpt
  simp only [ElementTree.tag_excerpt, tag_tree] at htag
  simp only [ElementTree.attributes_excerpt, attributes_tree] at hattributes
  rw [htag, hattributes, hinner, Option.some.injEq] at hinner'
  subst hinner'
  refine ⟨inner, hinner, ?_, ?_, hexcerpt.symm⟩
  · exact document_of_mem_elements h.left (List.mem_filter.mp hx).1 ▸ h.left
  · exact document_of_mem_elements h.right (List.mem_filter.mp hy).1 ▸ h.right

/-- The child elements with a given tag that are read of the two elements. -/
theorem tagged (tag : String) : List.Forall₂
    (fun x y => ∃ inner, registry.childRole? a.base role tag x.attributes = some inner ∧
      SameExcerpt registry inner x y)
    ((a.elementsTagged tag).filter fun x =>
      (registry.childRole? a.base role tag x.attributes).isSome)
    ((b.elementsTagged tag).filter fun x =>
      (registry.childRole? a.base role tag x.attributes).isSome) := by
  have hswap : ∀ node : Node, ((node.elementsTagged tag).filter fun x =>
      (registry.childRole? a.base role tag x.attributes).isSome) =
      (node.elements.filter fun x =>
        (registry.childRole? a.base role x.tagOrEmpty x.attributes).isSome).filter fun x =>
          x.tagOrEmpty == tag := by
    intro node
    rw [elementsTagged_eq, List.filter_filter, List.filter_filter]
    refine List.filter_congr fun x _ => ?_
    cases htag : x.tagOrEmpty == tag with
    | false => rw [Bool.and_false, Bool.false_and]
    | true => rw [beq_iff_eq.mp htag, Bool.and_comm]
  rw [hswap, hswap]
  refine (forall₂_and_mem (List.rel_filter (fun x y hxy => ?_) h.elements)).imp ?_
  · obtain ⟨_, _, hexcerpt⟩ := hxy
    dsimp only
    rw [hexcerpt.tagOrEmpty]
  · rintro x y ⟨hxy, hx, -⟩
    have htag : x.tagOrEmpty = tag := beq_iff_eq.mp (List.mem_filter.mp hx).2
    rwa [htag] at hxy

/-- The objects that are read of the two elements. -/
theorem objects : List.Forall₂
    (fun x y => ∃ inner, registry.objectRole? a.base x.attributes role = some inner ∧
      SameExcerpt registry inner x y)
    (a.objects.filter fun x => (registry.objectRole? a.base x.attributes role).isSome)
    (b.objects.filter fun x => (registry.objectRole? a.base x.attributes role).isSome) := by
  have htagged := h.tagged "object"
  simp only [Registry.childRole?, if_true] at htagged
  exact htagged

theorem readsLike (hobject : "object" ∉ registry.tagsIn a.base role) :
    a.ReadsLike (registry.tagsIn a.base role) b where
  left := h.left
  right := h.right
  tagOrEmpty := h.tagOrEmpty
  attributes := h.attributes
  elementsTagged tag htag := by
    have hcontent : ∀ attributes,
        registry.childRole? a.base role tag attributes = some .content := by
      intro attributes
      have hne : tag ≠ "object" := ne_of_mem_of_not_mem htag hobject
      rw [Registry.childRole?, if_neg hne, if_pos htag]
    have htagged := h.tagged tag
    simp only [hcontent, Option.isSome_some, List.filter_true] at htagged
    refine htagged.imp fun x y ⟨inner, hinner, hxy⟩ => ?_
    cases hinner
    exact ⟨Alike, isPeering_alike, hxy.alike⟩

/-- Elements that hold their objects as slots do. -/
theorem holdsLike {rules : ContainerClass} (hitem : a.ReadsLike rules.itemTags b)
    (hslot : ∀ attributes, registry.objectRole? a.base attributes role =
      some (registry.slotRole (valueIn attributes "base"))) :
    registry.HoldsLike (SameExcerpt registry .object) rules a b := by
  have hobjects := h.objects
  simp only [hslot, Option.isSome_some, List.filter_true, Option.some.injEq, exists_eq_left']
    at hobjects
  refine ⟨hitem, by rw [hobjects.length_eq], fun _ => hobjects.length_eq, ?_⟩
  have hattached : List.Forall₂
      (fun x y => SameExcerpt registry (registry.slotRole x.base) x y)
      (a.objects.filter registry.attaches) (b.objects.filter registry.attaches) := by
    refine List.rel_filter (fun x y hxy => ?_) hobjects
    simp only [Registry.attaches, hxy.base]
  refine (forall₂_and_mem hattached).imp ?_
  rintro x y ⟨hxy, hx, -⟩
  unfold Registry.slotRole at hxy
  cases hspacer : registry.isSpacer x.base with
  | true =>
    rw [if_pos hspacer] at hxy
    exact .spacer hspacer (hxy.readsLike (show "object" ∉ spacerTags by decide))
  | false =>
    have hignored : registry.isIgnored x.base = false := by
      simpa [Registry.attaches, hspacer] using (List.mem_filter.mp hx).2
    simp only [hspacer, hignored, Bool.false_eq_true, if_false] at hxy
    exact .object hspacer hxy

end SameExcerpt

end Node

/-! ### What is cut out has no influence -/

namespace Registry

variable {registry : Registry} (hregistry : registry.LeavesObjects)

theorem tagsIn_object {base : String} {descriptor : Descriptor}
    (h : registry.descriptor? base = some descriptor) :
    registry.tagsIn base .object = descriptor.tags := by
  simp [tagsIn, h]

example : wxgo.tagsIn "EditNotebook" .object = ["events", "style", "tooltip", "disabled", "hidden",
    "background", "foreground", "size", "tabs"] := by decide

include hregistry

/-- **To leave the same** of objects is a simulation. -/
theorem isSimulation_sameExcerpt : registry.IsSimulation (Node.SameExcerpt registry .object) where
  reads {a b} h := by
    cases hlookup : registry.descriptor? a.base with
    | none => exact (h.readsLike (by simp [tagsIn, hlookup])).mono (List.nil_subset _)
    | some descriptor =>
      refine (h.readsLike ?_).mono (List.nil_subset _)
      rw [tagsIn_object hlookup]
      exact (hregistry.descriptor hlookup).1
  reads_tags {a b} h descriptor hlookup := by
    have hobject := (hregistry.descriptor hlookup).1
    rw [← tagsIn_object hlookup] at hobject ⊢
    exact h.readsLike hobject
  slots {a b} h rules hrules := by
    obtain ⟨descriptor, hlookup, hcontainer⟩ := Option.bind_eq_some_iff.mp hrules
    obtain ⟨hobject, hitem⟩ := hregistry.descriptor hlookup
    have hrules : (registry.descriptor? a.base).bind Descriptor.container? = some rules := hrules
    unfold ContainerClass.slots
    cases hitems : rules.items with
    | none =>
      have htags : rules.itemTags ⊆ descriptor.tags := rules.itemTags_subset hitems hcontainer
      rw [← tagsIn_object hlookup] at hobject htags
      refine .cons (h.holdsLike ((h.readsLike hobject).mono htags) fun attributes => ?_) .nil
      simp only [objectRole?, hrules, hitems]
    | some items =>
      have hkept : ∀ x : Node, (registry.objectRole? a.base x.attributes .object).isSome =
          (some x.className != items.placeholder) := by
        intro x
        simp only [objectRole?, hrules, hitems]
        change _ = (some (valueIn x.attributes "class") != items.placeholder)
        cases some (valueIn x.attributes "class") != items.placeholder <;> rfl
      have hobjects := h.objects
      simp only [hkept] at hobjects
      refine hobjects.imp fun x y ⟨inner, hinner, hxy⟩ => ?_
      obtain rfl : inner = .item rules := by
        simp only [objectRole?, hrules, hitems] at hinner
        split at hinner <;> cases hinner
        rfl
      exact hxy.holdsLike (hxy.readsLike (hitem rules hcontainer)) fun attributes => rfl

theorem resolveWindow_eq_of_sameExcerpt {a b : Node} (h : a.SameExcerpt registry .window b) :
    (resolveWindow registry a).result = (resolveWindow registry b).result := by
  have hobject : "object" ∉ registry.tagsIn a.base .window := by
    unfold tagsIn
    cases hlookup : registry.window? a.base with
    | none => simp
    | some windowClass => exact hregistry.window hlookup
  have hreads := h.readsLike hobject
  refine (isSimulation_sameExcerpt hregistry).resolveWindow_eq (hreads.mono (List.nil_subset _))
    (fun {windowClass} hlookup => ?_) ?_
  · simpa only [tagsIn, hlookup, Option.map_some, Option.getD_some] using hreads
  · have hkept : ∀ x : Node, (registry.objectRole? a.base x.attributes .window).isSome =
        !registry.isIgnored x.base := by
      intro x
      change Option.isSome (if registry.isIgnored x.base then none else some Role.object) = _
      cases registry.isIgnored x.base <;> rfl
    have hobjects := h.objects
    simp only [hkept] at hobjects
    refine hobjects.imp fun x y ⟨inner, hinner, hxy⟩ => ?_
    obtain rfl : inner = .object := by
      simp only [objectRole?] at hinner
      split at hinner <;> cases hinner
      rfl
    exact hxy

/-- **What is cut out of a document** has no influence on what it is resolved to. -/
theorem resolveDocument_eq_of_sameExcerpt {document document' : Document}
    (hwf : document.WellFormed) (hwf' : document'.WellFormed)
    (h : document.excerpt registry = document'.excerpt registry) :
    (resolveDocument registry document).result = (resolveDocument registry document').result := by
  have happlications : List.Forall₂ (Node.SameExcerpt registry .application)
      (document.root.elementsTagged "application")
      (document'.root.elementsTagged "application") := by
    refine (forall₂_and_mem (map_eq_map_iff.mp h)).imp fun x y ⟨hxy, hx, hy⟩ => ?_
    rw [Node.elementsTagged_eq] at hx hy
    refine ⟨?_, ?_, hxy⟩
    · exact Node.document_of_mem_elements hwf (List.mem_filter.mp hx).1 ▸ hwf
    · exact Node.document_of_mem_elements hwf' (List.mem_filter.mp hy).1 ▸ hwf'
  unfold resolveDocument
  generalize document.root.elementsTagged "application" = found at happlications ⊢
  generalize document'.root.elementsTagged "application" = found' at happlications ⊢
  cases happlications with
  | nil => rfl
  | @cons application application' _ _ happlication hrest =>
    cases hrest with
    | cons _ _ => rfl
    | nil =>
      have hobjects := happlication.objects
      simp only [objectRole?, Option.isSome_some, List.filter_true, Option.some.injEq,
        exists_eq_left'] at hobjects
      simp only [Logged.result_mapM]
      exact mapM_congr (hobjects.imp fun x y => resolveWindow_eq_of_sameExcerpt hregistry)

end Registry

/-! ### The wxGo catalogue -/

/-- **What is cut out of a wxGlade document is not read**: documents of which the same is left are
resolved to the same plans, or fail with the same fault. Cut out are what is inside placeholders,
spacers directly in a window, objects in widgets that hold none, and all child elements of windows,
widgets and items that have the tag of no property, argument or setter of their class. -/
theorem resolveDocument_wxgo_eq_of_excerpt_eq {text text' : String} {document document' : Document}
    (hparse : Document.parse text = .ok document) (hparse' : Document.parse text' = .ok document')
    (h : document.excerpt .wxgo = document'.excerpt .wxgo) :
    (resolveDocument .wxgo document).result = (resolveDocument .wxgo document').result :=
  Registry.resolveDocument_eq_of_sameExcerpt leavesObjects_wxgo
    (Document.wellFormed_of_parse hparse) (Document.wellFormed_of_parse hparse') h

/-- The text of `sampleText` with things in it that are not read: child elements of unknown tags, a
spacer and what is in it, what is in a placeholder, and a window in a button. -/
def clutteredText : String :=
  "<application><object class='Main' name='main' base='EditFrame'
    ><icon>main.png</icon
    ><object class='spacer' base='EditSpacer'><width>wide</width><object base='Edit'/></object
    ><object class='wxPanel' name='page' base='EditPanel'
      ><note>the only page</note
      ><object class='wxBoxSizer' name='row' base='EditBoxSizer'><orient>wxVERTICAL</orient
        ><object class='sizerslot'><option>x</option><object name='ok'/></object
        ><object class='sizeritem'
          ><option>0</option><span>2</span><border>0</border
          ><object class='wxButton' name='ok' base='EditButton'><label>OK</label
            ><object class='wxFrame' name='ok' base='EditFrame'/></object
        ></object></object></object></object></application>"

/-- The document of `clutteredText`. -/
def clutteredDocument : Document where
  nodes := #[
    ⟨.document, none, #[1]⟩,
    ⟨.element "application" [], some 0, #[2]⟩,
    ⟨.element "object" [("class", "Main"), ("name", "main"), ("base", "EditFrame")], some 1,
      #[3, 5, 9]⟩,
    ⟨.element "icon" [], some 2, #[4]⟩,
    ⟨.text "main.png", some 3, #[]⟩,
    ⟨.element "object" [("class", "spacer"), ("base", "EditSpacer")], some 2, #[6, 8]⟩,
    ⟨.element "width" [], some 5, #[7]⟩,
    ⟨.text "wide", some 6, #[]⟩,
    ⟨.element "object" [("base", "Edit")], some 5, #[]⟩,
    ⟨.element "object" [("class", "wxPanel"), ("name", "page"), ("base", "EditPanel")], some 2,
      #[10, 12]⟩,
    ⟨.element "note" [], some 9, #[11]⟩,
    ⟨.text "the only page", some 10, #[]⟩,
    ⟨.element "object" [("class", "wxBoxSizer"), ("name", "row"), ("base", "EditBoxSizer")],
      some 9, #[13, 15, 19]⟩,
    ⟨.element "orient" [], some 12, #[14]⟩,
    ⟨.text "wxVERTICAL", some 13, #[]⟩,
    ⟨.element "object" [("class", "sizerslot")], some 12, #[16, 18]⟩,
    ⟨.element "option" [], some 15, #[17]⟩,
    ⟨.text "x", some 16, #[]⟩,
    ⟨.element "object" [("name", "ok")], some 15, #[]⟩,
    ⟨.element "object" [("class", "sizeritem")], some 12, #[20, 22, 24, 26]⟩,
    ⟨.element "option" [], some 19, #[21]⟩,
    ⟨.text "0", some 20, #[]⟩,
    ⟨.element "span" [], some 19, #[23]⟩,
    ⟨.text "2", some 22, #[]⟩,
    ⟨.element "border" [], some 19, #[25]⟩,
    ⟨.text "0", some 24, #[]⟩,
    ⟨.element "object" [("class", "wxButton"), ("name", "ok"), ("base", "EditButton")], some 19,
      #[27, 29]⟩,
    ⟨.element "label" [], some 26, #[28]⟩,
    ⟨.text "OK", some 27, #[]⟩,
    ⟨.element "object" [("class", "wxFrame"), ("name", "ok"), ("base", "EditFrame")], some 26,
      #[]⟩]

set_option maxRecDepth 10000 in
theorem parse_clutteredText : Document.parse clutteredText = .ok clutteredDocument := by
  apply eq_ok_of_toOption
  rw [Document.parse, show clutteredText.toList = _ from String.toList_ofList]
  decide +kernel

theorem resolveDocument_wxgo_eq_of_excerpt_eq_clutteredDocument :
    clutteredDocument.root.tree ≠ sampleDocument.root.tree ∧
    clutteredDocument.excerpt .wxgo = sampleDocument.excerpt .wxgo ∧
    ∃ plans, (resolveDocument .wxgo sampleDocument).result = .ok plans ∧
      (resolveDocument .wxgo clutteredDocument).result = .ok plans := by
  have h : clutteredDocument.excerpt .wxgo = sampleDocument.excerpt .wxgo := by decide +kernel
  have hresolves : (resolveDocument .wxgo sampleDocument).result.toOption.isSome = true := by
    decide +kernel
  obtain ⟨plans, hplans⟩ := Option.isSome_iff_exists.mp hresolves
  refine ⟨by decide +kernel, h, plans, eq_ok_of_toOption hplans, ?_⟩
  rw [resolveDocument_wxgo_eq_of_excerpt_eq parse_clutteredText parse_sampleText h]
  exact eq_ok_of_toOption hplans

end GladeGo
