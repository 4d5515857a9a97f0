import GladeGo.Proofs.Document.Path
import GladeGo.Proofs.Widget.Argument
import GladeGo.Proofs.Window.Layout

/-! # Notebook pages

The label of a page is the text of its tab: the first tab of its own notebook, over all lists of
tabs, that names the page as its window (`tabOf?`). The path that finds it goes up to the notebook
and down again, so tabs of other notebooks are never looked at (`follow_tabs`). A notebook adds each
of its pages under its label (`Container.Attached.eq_pageCall`). A page without a tab is a fault,
which is the fault of the window if the walk comes as far as that page (`PageReached`). -/

namespace GladeGo

variable {window book page : Node} {pending : Pending}

/-! ### Tabs -/

namespace Node

/-- The tabs of a notebook, over all the lists of tabs in it. -/
def tabs (book : Node) : List Node :=
  (book.elementsTagged "tabs").flatMap fun list => list.elementsTagged "tab"

/-- The tab of a page: the first one that names the page as its window. -/
def tabOf? (book page : Node) : Option Node :=
  book.tabs.find? fun tab => tab.attribute? "window" == some page.name

theorem mem_tabs_iff {tab : Node} (hwf : book.document.WellFormed) : tab ∈ book.tabs ↔
    ∃ list, list.parent? = some book ∧ list.tag? = some "tabs" ∧
      tab.parent? = some list ∧ tab.tag? = some "tab" := by
  rw [tabs, List.mem_flatMap]
  constructor
  · rintro ⟨list, hlist, htab⟩
    obtain ⟨hparent, htag⟩ := (mem_elementsTagged_iff hwf).mp hlist
    have hwf' : list.document.WellFormed := document_of_parent hparent ▸ hwf
    obtain ⟨hparent', htag'⟩ := (mem_elementsTagged_iff hwf').mp htab
    exact ⟨list, hparent, htag, hparent', htag'⟩
  · rintro ⟨list, hparent, htag, hparent', htag'⟩
    have hwf' : list.document.WellFormed := document_of_parent hparent ▸ hwf
    exact ⟨list, (mem_elementsTagged_iff hwf).mpr ⟨hparent, htag⟩,
      (mem_elementsTagged_iff hwf').mpr ⟨hparent', htag'⟩⟩

/-- The path to the tabs leads to those of the notebook that the page stands in. -/
theorem follow_tabs (hparent : page.parent? = some book) :
    page.follow "../tabs/tab" = book.tabs := by
  have hsteps : pathSteps "../tabs/tab" = [.up, .down "tabs", .down "tab"] := by decide +kernel
  rw [follow, hsteps]
  simp [step, hparent, tabs]

theorem tabLabel_eq (hparent : page.parent? = some book) (hname : page.name ≠ "") :
    page.tabLabel = (book.tabOf? page).map fun tab => Go.string tab.text := by
  have hattribute : page.attribute? "name" = some page.name := by
    unfold name attributeOrEmpty at hname ⊢
    cases h : page.attribute? "name" with
    | none =>
      rw [h] at hname
      exact absurd rfl hname
    | some name => rfl
  unfold tabLabel tabOf?
  rw [hattribute, Option.bind_eq_bind, Option.bind_some, follow_tabs hparent]
  cases book.tabs.find? fun tab => tab.attribute? "window" == some page.name <;> rfl

end Node

/-! ### Labels -/

/-- What the label of a page is read from, and the fault if there is none. -/
theorem result_tabLabel (book page : Node) :
    (renderArguments notebook.itemArguments ⟨book, some page⟩).result =
      (presentValue book "child object" (some page.display) page.tabLabel).map some := by
  rw [notebook, result_renderArguments_singleton]
  simp only [Slot.ofChild, Slot.evaluate, Binding.evaluate, Source.raw?, Source.field,
    Option.map_some, Converter.convert, Logged.result_bind, Logged.result_log, ok_bind]
  rfl

theorem label_of_tab {tab : Node} (hparent : page.parent? = some book) (hname : page.name ≠ "")
    (htab : book.tabOf? page = some tab) :
    (renderArguments notebook.itemArguments ⟨book, some page⟩).result =
      .ok (some (Go.string tab.text)) := by
  have hne : Go.string tab.text ≠ "" := by simp [Go.string, Go.stringChars]
  rw [result_tabLabel, Node.tabLabel_eq hparent hname, htab, Option.map_some, presentValue,
    if_neg hne]
  rfl

theorem label_of_no_tab (hparent : page.parent? = some book) (hname : page.name ≠ "")
    (htab : book.tabOf? page = none) :
    (renderArguments notebook.itemArguments ⟨book, some page⟩).result =
      .error (book.emptyValue "child object" (some page.display)) := by
  rw [result_tabLabel, Node.tabLabel_eq hparent hname, htab]
  rfl

/-! ### Pages -/

/-- The call that adds a page to a notebook under the label of a tab. -/
def pageCall (book page tab : Node) : LayoutCall :=
  ⟨book.name, .member page.name, some (Go.string tab.text), "AddPage"⟩

/-- A page is added under its label. -/
theorem Container.Attached.eq_pageCall {call : LayoutCall} {found : Option Pending}
    (h : (pending.container .wxgo notebook).Attached pending.node page (some ⟨call, found⟩))
    (hparent : page.parent? = some pending.node) :
    ∃ tab, pending.node.tabOf? page = some tab ∧ call = pageCall pending.node page tab := by
  cases h with
  | spacer hspacer hcall => cases hcall
  | member hvisits hname hextra =>
    change (renderArguments notebook.itemArguments ⟨pending.node, some page⟩).result = _ at hextra
    cases htab : pending.node.tabOf? page with
    | none =>
      rw [label_of_no_tab hparent hname htab] at hextra
      cases hextra
    | some tab =>
      rw [label_of_tab hparent hname htab] at hextra
      cases hextra
      exact ⟨tab, rfl, rfl⟩

theorem wxgo_container?_notebook (h : book.base = "EditNotebook") :
    Registry.wxgo.container? book = some notebook := by
  rw [Registry.container?, h]
  rfl

/-- **The block of a notebook** adds its objects in document order, each under its label. -/
theorem block_of_notebook {plan : WindowPlan} (resolution : Resolution .wxgo window plan)
    (hwf : window.document.WellFormed) (h : book ∈ Registry.wxgo.members window)
    (hbase : book.base = "EditNotebook") :
    List.Forall₂ (fun page call => ∃ tab, book.tabOf? page = some tab ∧
      call = pageCall book page tab) book.objects (plan.layoutOf book.name) := by
  have hwf' := wellFormed_of_mem_members hwf h
  obtain ⟨placement, -, rfl, -, hattached⟩ :=
    attached_of_wxgo resolution h (wxgo_container?_notebook hbase)
  have hplaces : notebook.places placement.pending.node =
      placement.pending.node.objects.map fun page => (placement.pending.node, page) := by
    simp [ContainerClass.places, ContainerClass.slots, notebook]
  rw [hplaces, List.forall₂_map_left_iff] at hattached
  refine (forall₂_and_mem hattached).imp fun page call hcall => ?_
  obtain ⟨⟨found, hpage⟩, hmem, -⟩ := hcall
  exact hpage.eq_pageCall (Node.parent_of_mem_objects hwf' hmem)

/-! ### A page without a tab -/

/-- The walk through a window comes to an object: the window's own checks succeed, and so does
adding the objects that are listed before it. -/
structure Arrival (registry : Registry) (window : Node) (pending : Pending) where
  windowClass : WindowClass
  setters : List SetterCall
  earlier : List Pending
  later : List Pending
  /-- The plan with the earlier objects. -/
  plan : WindowPlan
  className_ne : window.className ≠ ""
  class_eq : registry.window? window.base = some windowClass
  setters_eq : setterCalls none window windowClass.properties = .ok setters
  listing_eq : registry.listing window windowClass = earlier ++ pending :: later
  plan_eq : earlier.foldlM (addObject registry) (startPlan window windowClass setters) = .ok plan

/-- A fault of the object that the walk has come to is the fault of the window. -/
theorem Arrival.fault_eq {registry : Registry} {fault : ResolutionFault}
    (arrival : Arrival registry window pending) (hwf : window.document.WellFormed)
    (h : addObject registry arrival.plan pending = .error fault) :
    (resolveWindow registry window).result = .error fault := by
  rw [result_resolveWindow arrival.className_ne arrival.class_eq arrival.setters_eq,
    result_walk_window arrival.windowClass hwf, arrival.listing_eq, List.foldlM_append,
    arrival.plan_eq, ok_bind, List.foldlM_cons, h]
  rfl

/-- The visit of a notebook comes to the label of a page: the notebook's own checks succeed, the
pages before it have names and tabs, and the page itself has a name. -/
structure PageReached (plan : WindowPlan) (book page : Node) : Prop where
  base : book.base = "EditNotebook"
  resolved : ∃ widget, (notebook.toWidgetClass.resolve (some notebook) book).result = .ok widget
  name_ne : book.name ≠ ""
  free : plan.isTaken book.name = false
  setters : ∃ calls, setterCalls (some book.name) book notebook.properties = .ok calls
  bindings : ∃ bindings, eventBindings book.name book = .ok bindings
  pages : ∃ earlier later, book.objects = earlier ++ page :: later ∧
    ∀ other ∈ earlier, other.base ≠ "EditSpacer" ∧ other.name ≠ "" ∧ (book.tabOf? other).isSome
  page_base : page.base ≠ "EditSpacer"
  page_name : page.name ≠ ""

/-- What attaching a page gives. -/
theorem result_attachObject_page (hbase : page.base ≠ "EditSpacer") (hname : page.name ≠ "") :
    ((pending.container .wxgo notebook).attachObject pending.node page).result =
      (renderArguments notebook.itemArguments ⟨pending.node, some page⟩).result.map fun extra =>
        some ⟨⟨pending.node.name, .member page.name, extra, "AddPage"⟩,
          some ((pending.container .wxgo notebook).pending page)⟩ :=
  Container.result_attachObject_of_visits (wxgo_visits_iff.mpr hbase) hname

/-- The first page without a tab is a fault of its notebook. -/
theorem attachAll_of_no_tab {earlier later : List Node}
    (hwf : pending.node.document.WellFormed)
    (hpages : pending.node.objects = earlier ++ page :: later)
    (hearlier : ∀ other ∈ earlier,
      other.base ≠ "EditSpacer" ∧ other.name ≠ "" ∧ (pending.node.tabOf? other).isSome)
    (hbase : page.base ≠ "EditSpacer") (hname : page.name ≠ "")
    (htab : pending.node.tabOf? page = none) :
    (pending.container .wxgo notebook).attachAll.result =
      .error (pending.node.emptyValue "child object" (some page.display)) := by
  have hparent : ∀ other ∈ earlier ++ page :: later, other.parent? = some pending.node := by
    intro other hother
    exact Node.parent_of_mem_objects hwf (hpages ▸ hother)
  have hentries : ((earlier ++ page :: later).mapM fun other =>
      ((pending.container .wxgo notebook).attachObject pending.node other).result) =
      .error (pending.node.emptyValue "child object" (some page.display)) := by
    refine mapM_eq_error_of_split (fun other hother => ?_) ?_
    · obtain ⟨hotherBase, hotherName, hsome⟩ := hearlier other hother
      obtain ⟨tab, htab⟩ := Option.isSome_iff_exists.mp hsome
      rw [result_attachObject_page hotherBase hotherName,
        label_of_tab (hparent other (List.mem_append_left _ hother)) hotherName htab]
      exact ⟨_, rfl⟩
    · have hpage := hparent page (List.mem_append_right _ List.mem_cons_self)
      rw [result_attachObject_page hbase hname, label_of_no_tab hpage hname htab]
      rfl
  rw [← hpages] at hentries
  rw [Container.result_attachAll_of_no_items rfl, Container.result_attachItem_of_admits rfl]
  exact congrArg (Except.map _) hentries

/-- **A page without a tab is a fault**, if the visit of its notebook comes to it. -/
theorem addObject_of_no_tab {plan : WindowPlan} (hwf : pending.node.document.WellFormed)
    (hreached : PageReached plan pending.node page) (htab : pending.node.tabOf? page = none) :
    addObject .wxgo plan pending =
      .error (pending.node.emptyValue "child object" (some page.display)) := by
  obtain ⟨widget, hwidget⟩ := hreached.resolved
  obtain ⟨setters, hsetters⟩ := hreached.setters
  obtain ⟨bindings, hbindings⟩ := hreached.bindings
  obtain ⟨earlier, later, hpages, hearlier⟩ := hreached.pages
  have hlookup : Registry.wxgo.descriptor? pending.node.base = some (.container notebook) := by
    rw [hreached.base]
    rfl
  have hmember : pending.node.memberName = .ok pending.node.name :=
    Node.memberName_eq_ok_iff.mpr ⟨rfl, hreached.name_ne⟩
  obtain ⟨hcontainer, hproperties⟩ := WidgetClass.parts_of_resolve hwidget
  have hattachments : (attachments .wxgo pending pending.node.name widget).result =
      .error (pending.node.emptyValue "child object" (some page.display)) := by
    rw [attachments, hcontainer]
    exact attachAll_of_no_tab hwf hpages hearlier hreached.page_base hreached.page_name htab
  simp only [addObject, hlookup, Descriptor.resolve, hwidget, hmember, hreached.free, hproperties,
    hsetters, hbindings, hattachments, ok_bind, Bool.false_eq_true, if_false]
  rfl

/-! ### Labels of a window -/

/-- **Notebook pages carry their own tab label.** A notebook of a resolved window makes one call for
each object in it, in document order, and adds it under the text of the first tab that names it as
its window. The tabs are those of this notebook, over all its lists of tabs and in document order,
and no others. A page without a tab is the fault of the window, if the walk comes to its label. -/
theorem labels_of_resolveWindow {text : String}
    (hparse : Document.parse text = .ok window.document) :
    (∀ plan, (resolveWindow .wxgo window).result = .ok plan →
      ∀ book ∈ Registry.wxgo.members window, book.base = "EditNotebook" →
        List.Forall₂ (fun page call => ∃ tab, book.tabOf? page = some tab ∧
          call = ⟨book.name, .member page.name, some (Go.string tab.text), "AddPage"⟩)
          book.objects (plan.layoutOf book.name)) ∧
    (∀ book ∈ Registry.wxgo.members window,
      book.objects.Pairwise (fun a b => a.number < b.number) ∧
      book.tabs.Pairwise (fun a b => a.number < b.number) ∧
      (∀ tab, tab ∈ book.tabs ↔ ∃ list, list.parent? = some book ∧ list.tag? = some "tabs" ∧
        tab.parent? = some list ∧ tab.tag? = some "tab") ∧
      ∀ page tab, book.tabOf? page = some tab ↔ ∃ before after,
        book.tabs = before ++ tab :: after ∧ tab.attribute? "window" = some page.name ∧
        ∀ other ∈ before, other.attribute? "window" ≠ some page.name) ∧
    ∀ (pending : Pending) (arrival : Arrival .wxgo window pending) (page : Node),
      PageReached arrival.plan pending.node page → pending.node.tabOf? page = none →
      (resolveWindow .wxgo window).result =
        .error (pending.node.emptyValue "child object" (some page.display)) := by
  have hwf := Document.wellFormed_of_parse hparse
  refine ⟨fun plan hplan book hbook hbase => ?_, fun book hbook => ?_,
    fun pending arrival page hreached htab => ?_⟩
  · obtain ⟨resolution⟩ := exists_resolution hwf hplan
    exact block_of_notebook resolution hwf hbook hbase
  · have hwf' := wellFormed_of_mem_members hwf hbook
    refine ⟨Node.objects_ordered hwf', Node.lt_flatMap_elementsTagged hwf' "tabs" "tab",
      fun tab => Node.mem_tabs_iff hwf', fun page tab => ?_⟩
    rw [Node.tabOf?, List.find?_eq_some_iff_append]
    simp only [beq_iff_eq, Bool.not_eq_true', beq_eq_false_iff_ne]
    constructor
    · rintro ⟨hwindow, before, after, hsplit, hbefore⟩
      exact ⟨before, after, hsplit, hwindow, hbefore⟩
    · rintro ⟨before, after, hsplit, hwindow, hbefore⟩
      exact ⟨hwindow, before, after, hsplit, hbefore⟩
  · have hmember : pending.node ∈ Registry.wxgo.members window := by
      rw [← Registry.wxgo.map_node_listing arrival.windowClass, arrival.listing_eq]
      exact List.mem_map_of_mem (List.mem_append_right _ List.mem_cons_self)
    exact arrival.fault_eq hwf
      (addObject_of_no_tab (wellFormed_of_mem_members hwf hmember) hreached htab)

/-- The text of two windows with a notebook each. The pages of both are named `a` and `b`, and the
second notebook has no tab for `b`. -/
def bookText : String :=
  "<application><object class='Main' name='main' base='EditFrame'
    ><object class='wxNotebook' name='book' base='EditNotebook'
      ><tabs><tab window='b'>B</tab></tabs
      ><tabs><tab window='a'>A</tab><tab window='a'>C</tab></tabs
      ><object class='wxPanel' name='a' base='EditPanel'
      /><object class='wxPanel' name='b' base='EditPanel'/></object></object
    ><object class='Other' name='other' base='EditFrame'
    ><object class='wxNotebook' name='book' base='EditNotebook'
      ><tabs><tab window='a'>A</tab></tabs
      ><object class='wxPanel' name='a' base='EditPanel'
      /><object class='wxPanel' name='b' base='EditPanel'/></object></object></application>"

/-- The document of `bookText`. -/
def bookDocument : Document where
  nodes := #[
    ⟨.document, none, #[1]⟩,
    ⟨.element "application" [], some 0, #[2, 14]⟩,
    ⟨.element "object" [("class", "Main"), ("name", "main"), ("base", "EditFrame")], some 1, #[3]⟩,
    ⟨.element "object" [("class", "wxNotebook"), ("name", "book"), ("base", "EditNotebook")],
      some 2, #[4, 7, 12, 13]⟩,
    ⟨.element "tabs" [], some 3, #[5]⟩,
    ⟨.element "tab" [("window", "b")], some 4, #[6]⟩,
    ⟨.text "B", some 5, #[]⟩,
    ⟨.element "tabs" [], some 3, #[8, 10]⟩,
    ⟨.element "tab" [("window", "a")], some 7, #[9]⟩,
    ⟨.text "A", some 8, #[]⟩,
    ⟨.element "tab" [("window", "a")], some 7, #[11]⟩,
    ⟨.text "C", some 10, #[]⟩,
    ⟨.element "object" [("class", "wxPanel"), ("name", "a"), ("base", "EditPanel")], some 3, #[]⟩,
    ⟨.element "object" [("class", "wxPanel"), ("name", "b"), ("base", "EditPanel")], some 3, #[]⟩,
    ⟨.element "object" [("class", "Other"), ("name", "other"), ("base", "EditFrame")], some 1,
      #[15]⟩,
    ⟨.element "object" [("class", "wxNotebook"), ("name", "book"), ("base", "EditNotebook")],
      some 14, #[16, 19, 20]⟩,
    ⟨.element "tabs" [], some 15, #[17]⟩,
    ⟨.element "tab" [("window", "a")], some 16, #[18]⟩,
    ⟨.text "A", some 17, #[]⟩,
    ⟨.element "object" [("class", "wxPanel"), ("name", "a"), ("base", "EditPanel")], some 15, #[]⟩,
    ⟨.element "object" [("class", "wxPanel"), ("name", "b"), ("base", "EditPanel")], some 15, #[]⟩]

set_option maxRecDepth 10000 in
theorem parse_bookText : Document.parse bookText = .ok bookDocument := by
  apply eq_ok_of_toOption
  rw [Document.parse, show bookText.toList = _ from String.toList_ofList]
  decide +kernel

/-- The walk through the second window comes to its notebook at once. -/
def otherArrival : Arrival .wxgo (bookDocument.node 14) ⟨bookDocument.node 15, "Frame", none⟩ where
  windowClass := wxWindow "Frame"
  setters := []
  earlier := []
  later :=
    [⟨bookDocument.node 19, "book", some "book"⟩, ⟨bookDocument.node 20, "book", some "book"⟩]
  plan := startPlan (bookDocument.node 14) (wxWindow "Frame") []
  className_ne := by decide +kernel
  class_eq := rfl
  setters_eq := eq_ok_of_toOption (by decide +kernel)
  listing_eq := by decide +kernel
  plan_eq := rfl

theorem pageReached_other :
    PageReached otherArrival.plan (bookDocument.node 15) (bookDocument.node 20) where
  base := by decide +kernel
  resolved := exists_ok_of_isSome (by decide +kernel)
  name_ne := by decide +kernel
  free := by decide +kernel
  setters := exists_ok_of_isSome (by decide +kernel)
  bindings := exists_ok_of_isSome (by decide +kernel)
  pages := ⟨[bookDocument.node 19], [], by decide +kernel, by decide +kernel⟩
  page_base := by decide +kernel
  page_name := by decide +kernel

theorem labels_of_resolveWindow_bookDocument : ∃ plan,
    (resolveWindow .wxgo (bookDocument.node 2)).result = .ok plan ∧
    List.Forall₂ (fun page call => ∃ tab, (bookDocument.node 3).tabOf? page = some tab ∧
        call = ⟨"book", .member page.name, some (Go.string tab.text), "AddPage"⟩)
      [bookDocument.node 12, bookDocument.node 13] (plan.layoutOf "book") ∧
    (bookDocument.node 3).tabOf? (bookDocument.node 12) = some (bookDocument.node 8) ∧
    (resolveWindow .wxgo (bookDocument.node 14)).result =
      .error (.emptyValue "object" "wxNotebook" "child object"
        (some (bookDocument.node 20).display)) := by
  obtain ⟨plan, hplan⟩ : ∃ plan, (resolveWindow .wxgo (bookDocument.node 2)).result = .ok plan :=
    exists_ok_of_isSome (by decide +kernel)
  have hmain : Document.parse bookText = .ok (bookDocument.node 2).document := parse_bookText
  have hother : Document.parse bookText = .ok (bookDocument.node 14).document := parse_bookText
  obtain ⟨hblocks, -, -⟩ := labels_of_resolveWindow hmain
  obtain ⟨-, -, hfault⟩ := labels_of_resolveWindow hother
  have hblock := hblocks plan hplan (bookDocument.node 3) (by decide +kernel) (by decide +kernel)
  have hpages : (bookDocument.node 3).objects = [bookDocument.node 12, bookDocument.node 13] := by
    decide +kernel
  have hname : (bookDocument.node 3).name = "book" := by decide +kernel
  rw [hpages, hname] at hblock
  exact ⟨plan, hplan, hblock, by decide +kernel,
    hfault _ otherArrival _ pageReached_other (by decide +kernel)⟩

end GladeGo
