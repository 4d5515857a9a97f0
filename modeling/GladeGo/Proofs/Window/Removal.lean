import GladeGo.Proofs.Window.Layout
import GladeGo.Proofs.Window.Simulation

/-! # Objects that are left out

An object that is passed over may be left out of a window with everything inside it, and the window
is resolved to the same plan (`Removable.resolveWindow_eq`). It is passed over last, though: before
that, a container counts its objects, and a container that is no sizer refuses spacers. So if a
container holds the object, it must be no spacer, and the container must admit as many objects as
there are with it and without it (`Registry.Spares`). In a window that is resolved, this is so of
every container that is no sizer and holds its objects directly, one or none at will. -/

namespace GladeGo

namespace Registry
variable (registry : Registry) (window : Node)

/-- An item of a member of the window. -/
def IsItem (node : Node) : Prop :=
  ∃ container ∈ registry.members window, ∃ rules, registry.container? container = some rules ∧
    rules.items ≠ none ∧ node ∈ rules.slots container

/-- A slot admits its objects with `gone`, which is no spacer, and without it. -/
structure Spares (rules : ContainerClass) (slot gone : Node) : Prop where
  not_spacer : registry.isSpacer gone.base = false
  admits : rules.cardinality.admits slot.objects.length = true
  admits_pred : rules.cardinality.admits (slot.objects.length - 1) = true

/-- An object that is passed over wherever it is come across: neither is it an item, nor does it
stand in one, and a member that holds it directly admits its objects as well without it. -/
structure Removable (gone : Node) : Prop where
  object : gone.tag? = some "object"
  ignored : registry.isIgnored gone.base = true
  not_item : ¬ registry.IsItem window gone
  holder : ∀ above, gone.parent? = some above → ¬ registry.IsItem window above
  spared : ∀ above ∈ registry.members window, gone.parent? = some above →
    ∀ rules, registry.container? above = some rules → rules.items = none →
      registry.Spares rules above gone

end Registry

/-- Whether a node is another one than `gone`. -/
def Node.butFor (gone node : Node) : Bool := node != gone

/-- A member of the window, and an element that has its tree without `gone`. -/
structure Registry.LeavesMember (registry : Registry) (window gone a b : Node) : Prop where
  member : a ∈ registry.members window
  prunes : a.PrunesTo gone.butFor b

namespace Node.PrunesTo
variable {keep : Node → Bool} {a b : Node} (h : PrunesTo keep a b)
include h

theorem base : a.base = b.base := by
  rw [Node.base, Node.base, attributeOrEmpty, attributeOrEmpty, attribute?, h.attributes,
    ← attribute?]

theorem objects : List.Forall₂ (PrunesTo keep) (a.objects.filter keep) b.objects :=
  h.elementsTagged "object"

/-- Where all but objects are kept, an element is read like what it prunes to. -/
theorem readsLike (hkeep : ∀ node : Node, node.tag? ≠ some "object" → keep node = true)
    {tags : List String} (htags : "object" ∉ tags) : a.ReadsLike tags b := by
  have htagged : ∀ {a b : Node}, PrunesTo keep a b → ∀ {tag : String}, tag ≠ "object" →
      List.Forall₂ (PrunesTo keep) (a.elementsTagged tag) (b.elementsTagged tag) := by
    intro a b h tag htag
    have hkept : (a.elementsTagged tag).filter keep = a.elementsTagged tag := by
      refine List.filter_eq_self.mpr fun x hx => hkeep x fun hobject => htag ?_
      have hx : x.tag? = some tag := beq_iff_eq.mp (List.mem_filter.mp hx).2
      exact Option.some.inj (hx.symm.trans hobject)
    exact hkept ▸ h.elementsTagged tag
  have hpeering : IsPeering (PrunesTo keep) :=
    ⟨fun h => h.tagOrEmpty, fun h => h.attributes, fun h => h.text, fun h _ htag => htagged h htag⟩
  refine ⟨h.left, h.right, h.tagOrEmpty, h.attributes, fun tag htag => ?_⟩
  exact (htagged h (ne_of_mem_of_not_mem htag htags)).imp fun _ _ hxy => ⟨_, hpeering, hxy⟩

end Node.PrunesTo

/-! ### Items -/

section Items
variable {registry : Registry} {window node slot object : Node} (hwf : window.document.WellFormed)

theorem ContainerClass.mem_objects_of_mem_slots {rules : ContainerClass}
    (hitems : rules.items ≠ none) (h : slot ∈ rules.slots node) : slot ∈ node.objects := by
  unfold slots at h
  split at h
  · exact absurd ‹_› hitems
  · exact (List.mem_filter.mp h).1

include hwf

/-- An item stands directly in a member that has items. -/
theorem Registry.IsItem.parent (h : registry.IsItem window node) :
    ∃ container ∈ registry.members window, node.parent? = some container ∧
      ∃ rules, registry.container? container = some rules ∧ rules.items ≠ none := by
  obtain ⟨container, hcontainer, rules, hrules, hitems, hslot⟩ := h
  exact ⟨container, hcontainer, Node.parent_of_mem_objects
    (wellFormed_of_mem_members hwf hcontainer) (rules.mem_objects_of_mem_slots hitems hslot),
    rules, hrules, hitems⟩

theorem not_isItem_of_mem_members (h : object ∈ registry.members window) :
    ¬ registry.IsItem window object := by
  intro hitem
  obtain ⟨container, hcontainer, hparent, rules, hrules, hitems⟩ := hitem.parent hwf
  exact hitems (items_eq_none_of_parent hwf h hcontainer hparent hrules)

end Items

/-! ### Leaving an object out -/

namespace Registry.Removable
variable {registry : Registry} {window gone : Node} (h : registry.Removable window gone)
include h

theorem keeps (node : Node) (hnode : node.tag? ≠ some "object") : gone.butFor node = true := by
  refine bne_iff_ne.mpr fun heq => hnode ?_
  rw [heq, h.object]

/-- What is attached in a slot is attached in it without `gone`. -/
theorem attached {rules : ContainerClass} {a b : Node} (hab : a.PrunesTo gone.butFor b)
    (hspared : gone ∈ a.objects → registry.Spares rules a gone) :
    List.Forall₂ (Node.PrunesTo gone.butFor) (a.objects.filter registry.attaches)
      (b.objects.filter registry.attaches) := by
  have hkept : (a.objects.filter gone.butFor).filter registry.attaches =
      a.objects.filter registry.attaches := by
    rw [List.filter_filter]
    refine List.filter_congr fun x hx => ?_
    by_cases hgone : x = gone
    · subst hgone
      simp [Registry.attaches, (hspared hx).not_spacer, h.ignored]
    · simp [Node.butFor, hgone]
  rw [← hkept]
  refine List.rel_filter (fun x y hxy => ?_) hab.objects
  simp only [Registry.attaches, hxy.base]

omit h in
/-- A slot admits as many objects as without `gone`. If these are too few or too many, it holds as
many as without it. -/
theorem admits {rules : ContainerClass} {a b : Node} (hab : a.PrunesTo gone.butFor b)
    (hspared : gone ∈ a.objects → registry.Spares rules a gone) :
    rules.cardinality.admits a.objects.length = rules.cardinality.admits b.objects.length ∧
      (rules.cardinality.admits b.objects.length = false →
        a.objects.length = b.objects.length) := by
  rw [← hab.objects.length_eq]
  by_cases hgone : gone ∈ a.objects
  · have hfewer : a.objects.filter gone.butFor = a.objects.erase gone :=
      ((Node.nodup_objects hab.left).erase_eq_filter gone).symm
    rw [hfewer, List.length_erase_of_mem hgone, (hspared hgone).admits,
      (hspared hgone).admits_pred]
    exact ⟨rfl, fun hfalse => nomatch hfalse⟩
  · have hall : a.objects.filter gone.butFor = a.objects :=
      List.filter_eq_self.mpr fun x hx => bne_iff_ne.mpr (ne_of_mem_of_not_mem hx hgone)
    rw [hall]
    exact ⟨rfl, fun _ => rfl⟩

/-- A slot holds the same without `gone` if it spares it. -/
theorem holdsLike {rules : ContainerClass} {a b : Node} (hab : a.PrunesTo gone.butFor b)
    (hitem : a.ReadsLike rules.itemTags b)
    (hmembers : ∀ object ∈ a.objects, registry.visits object = true →
      object ∈ registry.members window)
    (hspared : gone ∈ a.objects → registry.Spares rules a gone) :
    registry.HoldsLike (registry.LeavesMember window gone) rules a b := by
  obtain ⟨hadmits, hlength⟩ := admits hab hspared
  refine ⟨hitem, hadmits, hlength, (forall₂_and_mem (h.attached hab hspared)).imp ?_⟩
  rintro x y ⟨hxy, hx, -⟩
  obtain ⟨hobject, hattaches⟩ := List.mem_filter.mp hx
  cases hspacer : registry.isSpacer x.base with
  | true => exact .spacer hspacer (hxy.readsLike h.keeps (by decide))
  | false =>
    refine .object hspacer ⟨hmembers x hobject ?_, hxy⟩
    simpa [Registry.attaches, Registry.visits, hspacer] using hattaches

/-- The items of a member are its items without `gone`. -/
theorem items {rules : ContainerClass} {a b : Node} (hab : registry.LeavesMember window gone a b)
    (hrules : registry.container? a = some rules) {items : ItemClass}
    (hitems : rules.items = some items) :
    List.Forall₂ (fun x y => registry.IsItem window x ∧ x.PrunesTo gone.butFor y)
      (a.objects.filter fun item => some item.className != items.placeholder)
      (b.objects.filter fun item => some item.className != items.placeholder) := by
  have hisItem : ∀ slot ∈ a.objects.filter fun item =>
      some item.className != items.placeholder, registry.IsItem window slot := by
    intro slot hslot
    refine ⟨a, hab.member, rules, hrules, by simp [hitems], ?_⟩
    rwa [ContainerClass.slots, hitems]
  have hall : (a.objects.filter fun item => some item.className != items.placeholder).filter
      gone.butFor = a.objects.filter fun item => some item.className != items.placeholder :=
    List.filter_eq_self.mpr fun slot hslot => bne_iff_ne.mpr fun heq =>
      h.not_item (heq ▸ hisItem slot hslot)
  have hslots : List.Forall₂ (Node.PrunesTo gone.butFor)
      (a.objects.filter fun item => some item.className != items.placeholder)
      (b.objects.filter fun item => some item.className != items.placeholder) := by
    rw [← hall, List.filter_comm]
    refine List.rel_filter (fun x y hxy => ?_) hab.prunes.objects
    dsimp only
    rw [(hxy.readsLike h.keeps List.not_mem_nil).className]
  exact (forall₂_and_mem hslots).imp fun x y ⟨hxy, hx, _⟩ => ⟨hisItem x hx, hxy⟩

theorem isSimulation (hregistry : registry.LeavesObjects) (hwf : window.document.WellFormed) :
    registry.IsSimulation (registry.LeavesMember window gone) where
  reads {a b} hab := hab.prunes.readsLike h.keeps List.not_mem_nil
  reads_tags {a b} hab descriptor hlookup :=
    hab.prunes.readsLike h.keeps (hregistry.descriptor hlookup).1
  slots {a b} hab rules hrules := by
    obtain ⟨descriptor, hlookup, hcontainer⟩ := Option.bind_eq_some_iff.mp hrules
    obtain ⟨hobject, hitem⟩ := hregistry.descriptor hlookup
    have hmembers : ∀ slot ∈ rules.slots a, ∀ object ∈ slot.objects,
        registry.visits object = true → object ∈ registry.members window := by
      intro slot hslot object hmem hvisits
      refine mem_members_of_mem_kids hwf hab.member (Registry.mem_kids.mpr ⟨rules, hrules, ?_⟩)
      exact ⟨List.mem_flatMap.mpr ⟨slot, hslot, hmem⟩, hvisits⟩
    unfold ContainerClass.slots at hmembers ⊢
    cases hitems : rules.items with
    | none =>
      rw [hitems] at hmembers
      have htags : rules.itemTags ⊆ descriptor.tags := rules.itemTags_subset hitems hcontainer
      have hreads := (hab.prunes.readsLike h.keeps hobject).mono htags
      refine .cons (h.holdsLike hab.prunes hreads (hmembers a List.mem_cons_self) ?_) .nil
      intro hgone
      have hparent := Node.parent_of_mem_objects (wellFormed_of_mem_members hwf hab.member) hgone
      exact h.spared a hab.member hparent rules hrules hitems
    | some items =>
      rw [hitems] at hmembers
      refine (forall₂_and_mem (h.items hab hrules hitems)).imp ?_
      rintro slot slot' ⟨⟨hisItem, hslot⟩, hmem, -⟩
      have hreads := hslot.readsLike h.keeps (hitem rules hcontainer)
      refine h.holdsLike hslot hreads (hmembers slot hmem) fun hgone => ?_
      exact absurd hisItem (h.holder slot (Node.parent_of_mem_objects hslot.left hgone))

theorem resolveWindow_eq (hregistry : registry.LeavesObjects) {other : Node}
    (hwindow : window.PrunesTo gone.butFor other) :
    (resolveWindow registry window).result = (resolveWindow registry other).result := by
  refine (h.isSimulation hregistry hwindow.left).resolveWindow_eq
    (hwindow.readsLike h.keeps List.not_mem_nil)
    (fun hlookup => hwindow.readsLike h.keeps (hregistry.window hlookup)) ?_
  have hall : (registry.roots window).filter gone.butFor = registry.roots window :=
    List.filter_eq_self.mpr fun root hroot => bne_iff_ne.mpr fun heq => by
      have hnot := (List.mem_filter.mp hroot).2
      simp [heq, h.ignored] at hnot
  have hroots : List.Forall₂ (Node.PrunesTo gone.butFor) (registry.roots window)
      (registry.roots other) := by
    rw [← hall, Registry.roots, List.filter_comm]
    refine List.rel_filter (fun x y hxy => ?_) hwindow.objects
    dsimp only
    rw [hxy.base]
  refine (forall₂_and_mem hroots).imp ?_
  rintro x y ⟨hxy, hx, -⟩
  exact ⟨(mem_members_iff hwindow.left).mpr ⟨0, hx⟩, hxy⟩

end Registry.Removable

/-! ### Containers that refuse objects -/

theorem Cardinality.admits_pred {cardinality : Cardinality} (hone : cardinality ≠ .exactlyOne)
    {count : Nat} (h : cardinality.admits count = true) :
    cardinality.admits (count - 1) = true := by
  cases cardinality with
  | exactlyOne => exact absurd rfl hone
  | atMostOne =>
    simp only [admits, decide_eq_true_eq] at h ⊢
    omega
  | any => rfl

/-- A spacer is attached to sizers only. -/
theorem Container.Attached.kind_ne_window {container : Container} {slot object : Node}
    {entry : Option Attachment} (h : container.Attached slot object entry)
    (hspacer : container.registry.isSpacer object.base = true) :
    container.rules.kind ≠ .window := by
  cases h with
  | spacer _ hcall =>
    intro hkind
    rw [spacerCall, hkind] at hcall
    cases hcall
  | ignored hnot _ => exact absurd hspacer (by simp [hnot])
  | member hvisits _ _ => simp [Registry.visits, hspacer] at hvisits

/-- In a window that is resolved, no container but a sizer holds a spacer, and none holds more
objects than it may. -/
theorem Resolution.holds_of_mem_members {registry : Registry} {window container object : Node}
    {plan : WindowPlan} (resolution : Resolution registry window plan)
    (h : container ∈ registry.members window) {rules : ContainerClass}
    (hrules : registry.container? container = some rules) (hitems : rules.items = none)
    (hkind : rules.kind = .window) (hobject : object ∈ container.objects) :
    registry.isSpacer object.base = false ∧
      rules.cardinality.admits container.objects.length = true := by
  obtain ⟨placement, -, rfl⟩ := resolution.exists_placement h
  have hwidget := placement.container_eq.trans hrules
  rcases attachments_ok placement.attached_eq with ⟨hnone, -⟩ | ⟨rules', hrules', hall⟩
  · rw [hwidget] at hnone
    cases hnone
  · obtain rfl : rules = rules' := Option.some.inj (hwidget.symm.trans hrules')
    obtain ⟨hfilled, entries, hentries, -⟩ := Container.attachAll_ok hall
    have hslots : rules.slots placement.pending.node = [placement.pending.node] := by
      rw [ContainerClass.slots, hitems]
    have hplace : (placement.pending.node, object) ∈ rules.places placement.pending.node := by
      rw [ContainerClass.places, hslots]
      simpa using hobject
    obtain ⟨entry, -, hentry⟩ := exists_of_mem_left hentries hplace
    refine ⟨?_, hfilled.count _ (hslots ▸ List.mem_cons_self)⟩
    cases hspacer : registry.isSpacer object.base with
    | false => rfl
    | true => exact absurd hkind (hentry.kind_ne_window hspacer)

/-! ### Windows and containers without an object -/

/-- Where an object that is passed over may be left out: directly in the window, or in a node that
is no item and, if it is a container, no sizer and holds its objects directly, one or none at will.
-/
inductive Registry.PassesOver (registry : Registry) (window : Node) : Node → Prop
  | window : PassesOver registry window window
  | container {above : Node} (not_item : ¬ registry.IsItem window above)
      (rules_eq : ∀ rules, registry.container? above = some rules → rules.kind = .window ∧
        rules.items = none ∧ rules.cardinality ≠ .exactlyOne) : PassesOver registry window above

theorem Registry.PassesOver.removable {registry : Registry} {window gone above : Node}
    (h : registry.PassesOver window above) (hwf : window.document.WellFormed)
    (hobject : gone.tag? = some "object") (hignored : registry.isIgnored gone.base = true)
    (hparent : gone.parent? = some above)
    (hfits : above ∈ registry.members window → ∀ rules, registry.container? above = some rules →
      registry.isSpacer gone.base = false ∧
      rules.cardinality.admits above.objects.length = true) : registry.Removable window gone where
  object := hobject
  ignored := hignored
  not_item hitem := by
    obtain ⟨container, hcontainer, hparent', rules, hrules, hitems⟩ := hitem.parent hwf
    obtain rfl : above = container := Option.some.inj (hparent.symm.trans hparent')
    cases h with
    | window => exact Nat.lt_irrefl _ (window_lt_of_mem_members hwf hcontainer)
    | container _ hplace => exact hitems (hplace rules hrules).2.1
  holder above' hparent' hitem := by
    obtain rfl : above = above' := Option.some.inj (hparent.symm.trans hparent')
    cases h with
    | container hnot _ => exact hnot hitem
    | window =>
      obtain ⟨container, hcontainer, hparent', -⟩ := hitem.parent hwf
      have hlt := Node.number_lt_of_parent hwf hparent'
      exact Nat.lt_asymm hlt (window_lt_of_mem_members hwf hcontainer)
  spared above' habove hparent' rules hrules _ := by
    obtain rfl : above = above' := Option.some.inj (hparent.symm.trans hparent')
    cases h with
    | window => exact absurd (window_lt_of_mem_members hwf habove) (Nat.lt_irrefl _)
    | container _ hplace =>
      obtain ⟨hspacer, hadmits⟩ := hfits habove rules hrules
      exact ⟨hspacer, hadmits, Cardinality.admits_pred (hplace rules hrules).2.2 hadmits⟩

theorem Registry.passesOver_panel {registry : Registry} {window above : Node}
    (hwf : window.document.WellFormed) (habove : above ∈ registry.members window)
    (hpanel : registry.container? above = some panel) : registry.PassesOver window above := by
  refine .container (not_isItem_of_mem_members hwf habove) fun rules hrules => ?_
  obtain rfl : panel = rules := Option.some.inj (hpanel.symm.trans hrules)
  exact ⟨rfl, rfl, by decide⟩

/-- **An object that is passed over may be left out** of a window, or of a container in it that is
no sizer: a window that is resolved is resolved to the same plan without it. If the container takes
the object for no spacer and not for one too many, a window that is not resolved fails with the same
fault. -/
theorem resolveWindow_of_pruned {registry : Registry} (hregistry : registry.LeavesObjects)
    {window other gone above : Node} {text text' : String}
    (hparse : Document.parse text = .ok window.document)
    (hparse' : Document.parse text' = .ok other.document)
    (hplace : registry.PassesOver window above) (hparent : gone.parent? = some above)
    (hobject : gone.tag? = some "object") (hignored : registry.isIgnored gone.base = true)
    (htree : window.pruned gone.butFor = other.tree) :
    (∀ plan, (resolveWindow registry window).result = .ok plan →
      (resolveWindow registry other).result = .ok plan) ∧
    ((above ∈ registry.members window → ∀ rules, registry.container? above = some rules →
        registry.isSpacer gone.base = false ∧
        rules.cardinality.admits above.objects.length = true) →
      (resolveWindow registry window).result = (resolveWindow registry other).result) := by
  have hwf := Document.wellFormed_of_parse hparse
  have hprunes : window.PrunesTo gone.butFor other :=
    ⟨hwf, Document.wellFormed_of_parse hparse', htree⟩
  refine ⟨fun plan hplan => ?_, fun hfits =>
    (hplace.removable hwf hobject hignored hparent hfits).resolveWindow_eq hregistry hprunes⟩
  obtain ⟨resolution⟩ := exists_resolution hwf hplan
  rw [← hplan]
  refine ((hplace.removable hwf hobject hignored hparent ?_).resolveWindow_eq hregistry
    hprunes).symm
  intro habove rules hrules
  have hwf' := wellFormed_of_mem_members hwf habove
  have hgone : gone ∈ above.objects := (Node.mem_objects_iff hwf').mpr ⟨hparent, hobject⟩
  cases hplace with
  | window => exact absurd (window_lt_of_mem_members hwf habove) (Nat.lt_irrefl _)
  | container _ hplace =>
    obtain ⟨hkind, hitems, -⟩ := hplace rules hrules
    exact resolution.holds_of_mem_members habove hrules hitems hkind hgone

/-- The wxGo catalogue, with lines passed over. -/
def Registry.withoutLines : Registry := Registry.wxgo.ignore "EditStaticLine"

/-- The text of a window with a line in a panel. -/
def lineText : String :=
  "<application><object class='Main' name='main' base='EditFrame'
    ><object class='wxPanel' name='page' base='EditPanel'
      ><object class='wxStaticLine' name='line' base='EditStaticLine'/></object
  ></object></application>"

/-- The document of `lineText`. -/
def lineDocument : Document where
  nodes := #[
    ⟨.document, none, #[1]⟩,
    ⟨.element "application" [], some 0, #[2]⟩,
    ⟨.element "object" [("class", "Main"), ("name", "main"), ("base", "EditFrame")], some 1, #[3]⟩,
    ⟨.element "object" [("class", "wxPanel"), ("name", "page"), ("base", "EditPanel")], some 2,
      #[4]⟩,
    ⟨.element "object" [("class", "wxStaticLine"), ("name", "line"), ("base", "EditStaticLine")],
      some 3, #[]⟩]

/-- The text of the same window without the line. -/
def pageText : String :=
  "<application><object class='Main' name='main' base='EditFrame'
    ><object class='wxPanel' name='page' base='EditPanel'/></object></application>"

/-- The document of `pageText`. -/
def pageDocument : Document where
  nodes := #[
    ⟨.document, none, #[1]⟩,
    ⟨.element "application" [], some 0, #[2]⟩,
    ⟨.element "object" [("class", "Main"), ("name", "main"), ("base", "EditFrame")], some 1, #[3]⟩,
    ⟨.element "object" [("class", "wxPanel"), ("name", "page"), ("base", "EditPanel")], some 2,
      #[]⟩]

/-- The window of `lineText`. -/
def lineWindow : Node := lineDocument.node 2

/-- The window of `pageText`. -/
def pageWindow : Node := pageDocument.node 2

set_option maxRecDepth 10000 in
theorem parse_lineText : Document.parse lineText = .ok lineWindow.document := by
  apply eq_ok_of_toOption
  rw [Document.parse, show lineText.toList = _ from String.toList_ofList]
  decide +kernel

set_option maxRecDepth 10000 in
theorem parse_pageText : Document.parse pageText = .ok pageWindow.document := by
  apply eq_ok_of_toOption
  rw [Document.parse, show pageText.toList = _ from String.toList_ofList]
  decide +kernel

/-- The registry reads objects no otherwise than the catalogue. -/
theorem leavesObjects_withoutLines : Registry.withoutLines.LeavesObjects :=
  ⟨leavesObjects_wxgo.descriptors, leavesObjects_wxgo.windows⟩

theorem resolveWindow_of_pruned_lineWindow : ∃ plan,
    (resolveWindow .withoutLines lineWindow).result = .ok plan ∧
    (resolveWindow .withoutLines pageWindow).result = .ok plan ∧
    (resolveWindow .withoutLines lineWindow).result =
      (resolveWindow .withoutLines pageWindow).result := by
  have hresolves : (resolveWindow .withoutLines lineWindow).result.toOption.isSome = true := by
    decide +kernel
  obtain ⟨plan, hplan⟩ := Option.isSome_iff_exists.mp hresolves
  have hwf : lineWindow.document.WellFormed := Document.wellFormed_of_parse parse_lineText
  have hpanel : Registry.withoutLines.container? (lineDocument.node 3) = some panel := by
    decide +kernel
  obtain ⟨hok, heq⟩ := resolveWindow_of_pruned leavesObjects_withoutLines parse_lineText
    parse_pageText (Registry.passesOver_panel hwf (by decide +kernel) hpanel)
    (show (lineDocument.node 4).parent? = some (lineDocument.node 3) by decide +kernel)
    (by decide +kernel) (by decide +kernel) (by decide +kernel)
  refine ⟨plan, eq_ok_of_toOption hplan, hok plan (eq_ok_of_toOption hplan), heq ?_⟩
  intro _ rules hrules
  obtain rfl : panel = rules := Option.some.inj (hpanel.symm.trans hrules)
  exact ⟨by decide +kernel, by decide +kernel⟩

/-- The text of `sampleText` with a line in the panel beside the sizer. -/
def crowdedText : String :=
  "<application><object class='Main' name='main' base='EditFrame'
    ><object class='wxPanel' name='page' base='EditPanel'
      ><object class='wxStaticLine' name='line' base='EditStaticLine'/><object
        class='wxBoxSizer' name='row' base='EditBoxSizer'><orient>wxVERTICAL</orient
        ><object class='sizerslot'/><object class='sizeritem'
          ><option>0</option><border>0</border
          ><object class='wxButton' name='ok' base='EditButton'><label>OK</label></object
        ></object></object></object></object></application>"

/-- The document of `crowdedText`. -/
def crowdedDocument : Document where
  nodes := #[
    ⟨.document, none, #[1]⟩,
    ⟨.element "application" [], some 0, #[2]⟩,
    ⟨.element "object" [("class", "Main"), ("name", "main"), ("base", "EditFrame")], some 1, #[3]⟩,
    ⟨.element "object" [("class", "wxPanel"), ("name", "page"), ("base", "EditPanel")], some 2,
      #[4, 5]⟩,
    ⟨.element "object" [("class", "wxStaticLine"), ("name", "line"), ("base", "EditStaticLine")],
      some 3, #[]⟩,
    ⟨.element "object" [("class", "wxBoxSizer"), ("name", "row"), ("base", "EditBoxSizer")],
      some 3, #[6, 8, 9]⟩,
    ⟨.element "orient" [], some 5, #[7]⟩,
    ⟨.text "wxVERTICAL", some 6, #[]⟩,
    ⟨.element "object" [("class", "sizerslot")], some 5, #[]⟩,
    ⟨.element "object" [("class", "sizeritem")], some 5, #[10, 12, 14]⟩,
    ⟨.element "option" [], some 9, #[11]⟩,
    ⟨.text "0", some 10, #[]⟩,
    ⟨.element "border" [], some 9, #[13]⟩,
    ⟨.text "0", some 12, #[]⟩,
    ⟨.element "object" [("class", "wxButton"), ("name", "ok"), ("base", "EditButton")], some 9,
      #[15]⟩,
    ⟨.element "label" [], some 14, #[16]⟩,
    ⟨.text "OK", some 15, #[]⟩]

/-- The window of `crowdedText`. -/
def crowdedWindow : Node := crowdedDocument.node 2

set_option maxRecDepth 10000 in
theorem parse_crowdedText : Document.parse crowdedText = .ok crowdedWindow.document := by
  apply eq_ok_of_toOption
  rw [Document.parse, show crowdedText.toList = _ from String.toList_ofList]
  decide +kernel

/-- **An object that is passed over counts**: beside its sizer a panel holds no line, although lines
are passed over, and the window is resolved without it. -/
theorem resolveWindow_crowdedWindow_ne : ∃ plan,
    Registry.withoutLines.PassesOver crowdedWindow (crowdedDocument.node 3) ∧
    (crowdedDocument.node 4).parent? = some (crowdedDocument.node 3) ∧
    (crowdedDocument.node 4).tag? = some "object" ∧
    Registry.withoutLines.isIgnored (crowdedDocument.node 4).base = true ∧
    Document.parse crowdedText = .ok crowdedWindow.document ∧
    Document.parse sampleText = .ok sampleWindow.document ∧
    crowdedWindow.pruned (crowdedDocument.node 4).butFor = sampleWindow.tree ∧
    (resolveWindow .withoutLines sampleWindow).result = .ok plan ∧
    (resolveWindow .withoutLines crowdedWindow).result =
      .error (.container "wxPanel" "page" (.wrongCount "wxPanel" 2 .atMostOne)) := by
  have hwf : crowdedWindow.document.WellFormed := Document.wellFormed_of_parse parse_crowdedText
  have hplace := @Registry.passesOver_panel .withoutLines crowdedWindow (crowdedDocument.node 3) hwf
    (by decide +kernel) (by decide +kernel)
  have hresolves : (resolveWindow .withoutLines sampleWindow).result.toOption.isSome = true := by
    decide +kernel
  obtain ⟨plan, hplan⟩ := Option.isSome_iff_exists.mp hresolves
  exact ⟨plan, hplace, by decide +kernel, by decide +kernel, by decide +kernel, parse_crowdedText,
    parse_sampleText, by decide +kernel, eq_ok_of_toOption hplan, by decide +kernel⟩

end GladeGo
