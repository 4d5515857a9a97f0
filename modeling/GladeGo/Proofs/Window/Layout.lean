import GladeGo.Proofs.Window.Resolution

/-! # The layout of a window

Each container of a window makes one block of calls, which attach its spacers and its kids in
document order. The names of members are distinct, so the blocks can be told apart by their parents
(`filter_flatMap_eq`), and a member that is attached is attached once (`filter_eq_singleton`). -/

namespace GladeGo

/-! ### Lists with distinct keys -/

section Keys
variable {α β κ : Type}

/-- Blocks whose entries carry the name of the block are told apart by it. -/
theorem filter_flatMap_eq [DecidableEq κ] {name : α → κ} {key : β → κ} {block : α → List β}
    {as : List α} (hkey : ∀ a ∈ as, ∀ b ∈ block a, key b = name a) (hnodup : (as.map name).Nodup)
    {a : α} (ha : a ∈ as) : ((as.flatMap block).filter fun b => key b = name a) = block a := by
  induction as with
  | nil => cases ha
  | cons first as ih =>
    rw [List.map_cons, List.nodup_cons] at hnodup
    obtain ⟨hfirst, hnodup⟩ := hnodup
    obtain ⟨hblock, hrest⟩ := List.forall_mem_cons.mp hkey
    rw [List.flatMap_cons, List.filter_append]
    rcases List.mem_cons.mp ha with rfl | ha
    · have hkeep : (block a).filter (fun b => key b = name a) = block a :=
        List.filter_eq_self.mpr fun b hb => decide_eq_true (hblock b hb)
      have hdrop : (as.flatMap block).filter (fun b => key b = name a) = [] := by
        refine List.filter_eq_nil_iff.mpr fun b hb heq => hfirst ?_
        obtain ⟨other, hother, hb⟩ := List.mem_flatMap.mp hb
        rw [← of_decide_eq_true heq, hrest other hother b hb]
        exact List.mem_map_of_mem hother
      rw [hkeep, hdrop, List.append_nil]
    · have hdrop : (block first).filter (fun b => key b = name a) = [] := by
        refine List.filter_eq_nil_iff.mpr fun b hb heq => hfirst ?_
        rw [← hblock b hb, of_decide_eq_true heq]
        exact List.mem_map_of_mem ha
      rw [hdrop, List.nil_append, ih hrest hnodup ha]

/-- A key that some entries carry, no two the same, is carried by one entry. -/
theorem filter_eq_singleton [DecidableEq κ] {key? : β → Option κ} {bs : List β}
    (hnodup : (bs.filterMap key?).Nodup) {b : β} {k : κ} (hb : b ∈ bs) (hkey : key? b = some k) :
    (bs.filter fun b => key? b = some k) = [b] := by
  induction bs with
  | nil => cases hb
  | cons first bs ih =>
    rcases List.mem_cons.mp hb with rfl | hb
    · rw [List.filterMap_cons_some hkey, List.nodup_cons] at hnodup
      have hdrop : bs.filter (fun b => key? b = some k) = [] :=
        List.filter_eq_nil_iff.mpr fun other hother heq =>
          hnodup.1 (List.mem_filterMap.mpr ⟨other, hother, of_decide_eq_true heq⟩)
      rw [List.filter_cons_of_pos (by simpa using hkey), hdrop]
    · have hmem : k ∈ bs.filterMap key? := List.mem_filterMap.mpr ⟨b, hb, hkey⟩
      have hne : key? first ≠ some k := fun heq => by
        rw [List.filterMap_cons_some heq, List.nodup_cons] at hnodup
        exact hnodup.1 hmem
      have hrest : (bs.filterMap key?).Nodup := by
        refine List.Nodup.sublist ?_ hnodup
        exact (List.sublist_cons_self first bs).filterMap key?
      rw [List.filter_cons_of_neg (by simpa using hne), ih hrest hb]

theorem flatMap_filter_eq {p : α → Bool} {block : α → List β} {as : List α}
    (h : ∀ a ∈ as, p a = false → block a = []) :
    (as.filter p).flatMap block = as.flatMap block := by
  induction as with
  | nil => rfl
  | cons a as ih =>
    obtain ⟨ha, has⟩ := List.forall_mem_cons.mp h
    rw [List.flatMap_cons, ← ih has]
    cases hp : p a with
    | true => rw [List.filter_cons_of_pos hp, List.flatMap_cons]
    | false => rw [List.filter_cons_of_neg (by simp [hp]), ha hp, List.nil_append]

end Keys

/-! ### The calls of one container -/

/-- The member that a call attaches, if it attaches one. -/
def LayoutCall.member? (call : LayoutCall) : Option String :=
  match call.child with
  | .member name => some name
  | .literal _ => none

theorem LayoutCall.member?_eq_some_iff {call : LayoutCall} {name : String} :
    call.member? = some name ↔ call.child = .member name := by
  unfold member?
  cases call.child <;> simp

theorem Container.members_of_calls {container : Container} {objects : List Node}
    {calls : List LayoutCall} (h : List.Forall₂ container.Calls objects calls) :
    calls.filterMap LayoutCall.member? =
      (objects.filter fun object => !container.registry.isSpacer object.base).map Node.name := by
  induction h with
  | nil => rfl
  | @cons object call objects calls hcall _ ih =>
    cases hspacer : container.registry.isSpacer object.base with
    | true =>
      obtain ⟨number, hchild⟩ := (Registry.attachesAs_of_spacer hspacer).mp hcall.2
      have hnone : call.member? = none := by rw [LayoutCall.member?, hchild]
      rw [List.filterMap_cons_none hnone, List.filter_cons_of_neg (by simp [hspacer]), ih]
    | false =>
      have hchild := (Registry.attachesAs_of_not_spacer hspacer).mp hcall.2
      have hsome : call.member? = some object.name := LayoutCall.member?_eq_some_iff.mpr hchild
      rw [List.filterMap_cons_some hsome, List.filter_cons_of_pos (by simp [hspacer]),
        List.map_cons, ih]

namespace Placement
variable {registry : Registry} (placement : Placement registry)

/-- What attaching the objects of a container has given, place by place. -/
theorem attached_of_container {rules : ContainerClass}
    (hrules : registry.container? placement.pending.node = some rules) :
    (placement.pending.container registry rules).WellFilled ∧ ∃ entries,
      List.Forall₂
        (fun place => (placement.pending.container registry rules).Attached place.1 place.2)
        (rules.places placement.pending.node) entries ∧
      placement.calls = (entries.filterMap id).map Attachment.call := by
  have hwidget := placement.container_eq.trans hrules
  rcases attachments_ok placement.attached_eq with ⟨hnone, -⟩ | ⟨rules', hrules', hall⟩
  · rw [hwidget] at hnone
    cases hnone
  · obtain rfl : rules = rules' := Option.some.inj (hwidget.symm.trans hrules')
    obtain ⟨hfilled, entries, hentries, hattached⟩ := Container.attachAll_ok hall
    exact ⟨hfilled, entries, hentries, congrArg (List.map Attachment.call) hattached⟩

/-- The calls of a container attach its objects in document order. -/
theorem calls_of_container {rules : ContainerClass}
    (hrules : registry.container? placement.pending.node = some rules) :
    (placement.pending.container registry rules).WellFilled ∧
    List.Forall₂ (placement.pending.container registry rules).Calls
      ((rules.objectsIn placement.pending.node).filter registry.attaches) placement.calls := by
  obtain ⟨hfilled, entries, hentries, hcalls⟩ := placement.attached_of_container hrules
  rw [hcalls, ← ContainerClass.map_snd_places]
  exact ⟨hfilled, Container.calls_attach hentries⟩

theorem calls_of_none (h : registry.container? placement.pending.node = none) :
    placement.calls = [] := by
  have hwidget := placement.container_eq.trans h
  rcases attachments_ok placement.attached_eq with ⟨-, hnil⟩ | ⟨rules, hrules, -⟩
  · rw [calls, hnil]
    rfl
  · rw [hwidget] at hrules
    cases hrules

theorem parent_of_mem_calls {call : LayoutCall} (h : call ∈ placement.calls) :
    call.parent = placement.name := by
  cases hrules : registry.container? placement.pending.node with
  | none =>
    rw [placement.calls_of_none hrules] at h
    cases h
  | some rules =>
    obtain ⟨object, -, hcall⟩ :=
      exists_of_mem_left (placement.calls_of_container hrules).2.flip h
    exact hcall.1

/-- The members that a container attaches are its kids. -/
theorem members_calls : placement.calls.filterMap LayoutCall.member? =
    (registry.kids placement.pending.node).map Node.name := by
  unfold Registry.kids
  cases hrules : registry.container? placement.pending.node with
  | none => rw [placement.calls_of_none hrules]; rfl
  | some rules =>
    rw [Container.members_of_calls (placement.calls_of_container hrules).2]
    dsimp only
    rw [Registry.filter_visits]
    rfl

end Placement

/-! ### The calls of a window -/

/-- The calls that attach something to the container with the given name. -/
def WindowPlan.layoutOf (plan : WindowPlan) (parent : String) : List LayoutCall :=
  plan.layout.filter fun call => call.parent = parent

/-- The members of a window that are containers. -/
def Registry.containers (registry : Registry) (window : Node) : List Node :=
  (registry.members window).filter fun member => (registry.container? member).isSome

namespace Resolution
variable {registry : Registry} {window : Node} {plan : WindowPlan}
  (resolution : Resolution registry window plan)

theorem layoutOf_eq {placement : Placement registry} (h : placement ∈ resolution.placements) :
    plan.layoutOf placement.name = placement.calls := by
  rw [WindowPlan.layoutOf, resolution.layout_eq]
  exact filter_flatMap_eq (fun other _ call => other.parent_of_mem_calls) resolution.nodup h

theorem exists_placement {member : Node} (h : member ∈ registry.members window) :
    ∃ placement ∈ resolution.placements, placement.pending.node = member := by
  rw [← resolution.nodes_eq] at h
  exact List.mem_map.mp h

include resolution

/-- The layout falls into the blocks of the containers. -/
theorem layout_eq_blocks : plan.layout =
    (registry.containers window).flatMap fun member => plan.layoutOf member.name := by
  have hblock : ∀ placement ∈ resolution.placements, placement.calls =
      plan.layoutOf placement.pending.node.name :=
    fun placement h => (resolution.layoutOf_eq h).symm
  rw [Registry.containers, flatMap_filter_eq, resolution.layout_eq, ← resolution.nodes_eq,
    List.flatMap_map]
  · exact List.flatMap_congr hblock
  · intro member hmember hnone
    obtain ⟨placement, hplacement, rfl⟩ := resolution.exists_placement hmember
    rw [← hblock placement hplacement]
    exact placement.calls_of_none (by simpa using hnone)

/-- The block of a container attaches its objects in document order. -/
theorem block_of_container {member : Node} (h : member ∈ registry.members window)
    {rules : ContainerClass} (hrules : registry.container? member = some rules) :
    List.Forall₂ (fun object call => registry.AttachesAs object call.child)
      ((rules.objectsIn member).filter registry.attaches) (plan.layoutOf member.name) := by
  obtain ⟨placement, hplacement, rfl⟩ := resolution.exists_placement h
  have hblock : plan.layoutOf placement.pending.node.name = placement.calls :=
    resolution.layoutOf_eq hplacement
  rw [hblock]
  exact (placement.calls_of_container hrules).2.imp fun _ _ hcall => hcall.2

/-- The members that are attached are those below the first level. -/
theorem members_layout :
    plan.layout.filterMap LayoutCall.member? = (registry.deeper window).map Node.name := by
  rw [resolution.layout_eq, List.filterMap_flatMap]
  simp only [Placement.members_calls]
  rw [Registry.deeper, ← flatMap_levelOrder, List.map_flatMap]
  change _ = (registry.members window).flatMap _
  rw [← resolution.nodes_eq, List.flatMap_map]

/-- Below the first level no name is given twice, nor is the name of an object of that level. -/
theorem nodup_names (hwf : window.document.WellFormed) :
    ((registry.deeper window).map Node.name).Nodup ∧
      ∀ top ∈ registry.roots window, top.name ∉ (registry.deeper window).map Node.name := by
  have hnodup := resolution.names_eq ▸ resolution.nodup
  rw [members_eq_append hwf, List.map_append, List.nodup_append'] at hnodup
  exact ⟨hnodup.2.1, fun top htop => hnodup.2.2 (List.mem_map_of_mem htop)⟩

/-- A member below the first level is attached once, by its container. -/
theorem attached_once (hwf : window.document.WellFormed) {object : Node}
    (h : object ∈ registry.deeper window) :
    ∃ container ∈ registry.members window, object ∈ registry.kids container ∧
      ∃ call, (plan.layout.filter fun call => call.child = .member object.name) = [call] ∧
        call.parent = container.name := by
  obtain ⟨container, hcontainer, hkid⟩ := mem_kids_of_mem_deeper hwf h
  obtain ⟨placement, hplacement, rfl⟩ := resolution.exists_placement hcontainer
  have hname : object.name ∈ placement.calls.filterMap LayoutCall.member? := by
    rw [placement.members_calls]
    exact List.mem_map_of_mem hkid
  obtain ⟨call, hcall, hmember⟩ := List.mem_filterMap.mp hname
  refine ⟨_, hcontainer, hkid, call, ?_, placement.parent_of_mem_calls hcall⟩
  have hlayout : call ∈ plan.layout := by
    rw [resolution.layout_eq]
    exact List.mem_flatMap.mpr ⟨placement, hplacement, hcall⟩
  have hnodup := (resolution.nodup_names hwf).1
  rw [← resolution.members_layout] at hnodup
  rw [← filter_eq_singleton hnodup hlayout hmember]
  simp only [LayoutCall.member?_eq_some_iff]

/-- An object of the first level is not attached. -/
theorem not_attached (hwf : window.document.WellFormed) {object : Node}
    (h : object ∈ registry.roots window) {call : LayoutCall} (hcall : call ∈ plan.layout) :
    call.child ≠ .member object.name := by
  intro hchild
  refine (resolution.nodup_names hwf).2 object h ?_
  rw [← resolution.members_layout]
  exact List.mem_filterMap.mpr ⟨call, hcall, LayoutCall.member?_eq_some_iff.mpr hchild⟩

end Resolution

/-! ### Containers of wxGo -/

theorem wxgo_attaches (object : Node) : Registry.wxgo.attaches object = true := by
  by_cases h : object.base = "EditSpacer" <;>
    simp [Registry.attaches, Registry.isSpacer, Registry.isIgnored, Registry.wxgo, h]

theorem wxgo_isSpacer_iff {base : String} :
    Registry.wxgo.isSpacer base = true ↔ base = "EditSpacer" := by
  change (some "EditSpacer" == some base) = true ↔ _
  rw [beq_iff_eq, Option.some.injEq, eq_comm]

theorem wxgo_visits_iff {object : Node} :
    Registry.wxgo.visits object = true ↔ object.base ≠ "EditSpacer" := by
  have hignored : Registry.wxgo.isIgnored object.base = Registry.wxgo.isSpacer object.base := by
    rw [Bool.eq_iff_iff, wxgo_isSpacer_iff]
    exact List.contains_iff_mem.trans List.mem_singleton
  rw [Registry.visits, hignored, Bool.and_self, Bool.not_eq_true', ← Bool.not_eq_true,
    wxgo_isSpacer_iff]

/-- **The block of a container of wxGo** has one call for each of its objects, in order. -/
theorem attached_of_wxgo {window : Node} {plan : WindowPlan}
    (resolution : Resolution .wxgo window plan) {member : Node}
    (h : member ∈ Registry.wxgo.members window) {rules : ContainerClass}
    (hrules : Registry.wxgo.container? member = some rules) :
    ∃ placement ∈ resolution.placements, placement.pending.node = member ∧
      (placement.pending.container .wxgo rules).WellFilled ∧
      List.Forall₂ (fun place call => ∃ found,
          (placement.pending.container .wxgo rules).Attached place.1 place.2 (some ⟨call, found⟩))
        (rules.places member) (plan.layoutOf member.name) := by
  obtain ⟨placement, hplacement, rfl⟩ := resolution.exists_placement h
  obtain ⟨hfilled, entries, hentries, hcalls⟩ := placement.attached_of_container hrules
  have hblock : plan.layoutOf placement.pending.node.name = placement.calls :=
    resolution.layoutOf_eq hplacement
  refine ⟨placement, hplacement, rfl, hfilled, ?_⟩
  rw [hblock, hcalls]
  generalize rules.places placement.pending.node = places at hentries ⊢
  clear hcalls
  induction hentries with
  | nil => exact .nil
  | @cons place entry _ _ hentry _ ih =>
    cases entry with
    | none =>
      have hcall := hentry.calls
      have hattaches : (placement.pending.container .wxgo rules).registry.attaches place.2 = true :=
        wxgo_attaches place.2
      rw [List.filter_cons_of_pos hattaches] at hcall
      cases hcall
    | some attachment => exact .cons ⟨attachment.pending, hentry⟩ ih

/-- The containers of wxGo are box sizers, panels and notebooks. -/
theorem wxgo_container?_cases {node : Node} {rules : ContainerClass}
    (h : Registry.wxgo.container? node = some rules) :
    (node.base = "EditBoxSizer" ∧ rules = boxSizer) ∨ rules = panel ∨ rules = notebook := by
  obtain ⟨descriptor, hlookup, hcontainer⟩ := Option.bind_eq_some_iff.mp h
  have hall : ∀ descriptor ∈ Registry.wxgo.descriptors, ∀ rules ∈ descriptor.container?,
      (descriptor.base = "EditBoxSizer" ∧ rules = boxSizer) ∨ rules = panel ∨ rules = notebook := by
    decide
  have hbase : descriptor.base = node.base := by simpa using List.find?_some hlookup
  rw [← hbase]
  exact hall descriptor (List.mem_of_find?_eq_some hlookup) rules hcontainer

theorem wxgo_container?_boxSizer {sizer : Node} (h : sizer.base = "EditBoxSizer") :
    Registry.wxgo.container? sizer = some boxSizer := by
  rw [Registry.container?, h]
  rfl

/-- Slots that hold one object each, and the calls for their objects. -/
theorem forall₂_of_singletons {R : Node × Node → LayoutCall → Prop} {slots : List Node}
    {calls : List LayoutCall} (hslots : ∀ slot ∈ slots, slot.objects.length = 1)
    (h : List.Forall₂ R (slots.flatMap fun slot => slot.objects.map fun object => (slot, object))
      calls) :
    List.Forall₂ (fun slot call => ∃ object, slot.objects = [object] ∧ R (slot, object) call)
      slots calls := by
  induction slots generalizing calls with
  | nil =>
    rw [List.flatMap_nil, List.forall₂_nil_left_iff] at h
    exact h ▸ .nil
  | cons slot slots ih =>
    obtain ⟨hslot, hslots⟩ := List.forall_mem_cons.mp hslots
    obtain ⟨object, hobject⟩ := List.length_eq_one_iff.mp hslot
    rw [List.flatMap_cons, hobject, List.map_singleton, List.singleton_append,
      List.forall₂_cons_left_iff] at h
    obtain ⟨call, calls, hcall, hcalls, rfl⟩ := h
    exact .cons ⟨object, hobject, hcall⟩ (ih hslots hcalls)

/-- The slots of a box sizer are its `sizeritem` elements, with one object in each. -/
theorem Container.WellFilled.boxSizer_slots {container : Container} (h : container.WellFilled)
    (hrules : container.rules = boxSizer) :
    boxSizer.slots container.node =
      container.node.objects.filter (fun item => item.className == "sizeritem") ∧
    ∀ slot ∈ boxSizer.slots container.node, slot.objects.length = 1 := by
  obtain ⟨hholder, hcount⟩ := h
  rw [hrules] at hholder hcount
  refine ⟨?_, fun slot hslot => by simpa [boxSizer, Cardinality.admits] using hcount slot hslot⟩
  have hitem := hholder ⟨"sizeritem", some "sizerslot"⟩ rfl
  refine List.filter_congr fun item hmem => ?_
  cases hslot : some item.className != some "sizerslot" with
  | true =>
    have hname := hitem item (List.mem_filter.mpr ⟨hmem, hslot⟩)
    exact (beq_iff_eq.mpr hname).symm
  | false =>
    have hname : item.className = "sizerslot" := by simpa using hslot
    rw [hname]
    decide

/-- The block of a box sizer has one call for each of its `sizeritem` elements, in order. -/
theorem block_of_boxSizer {window : Node} {plan : WindowPlan}
    (resolution : Resolution .wxgo window plan) {sizer : Node}
    (h : sizer ∈ Registry.wxgo.members window) (hbase : sizer.base = "EditBoxSizer") :
    List.Forall₂ (fun item call => ∃ object, item.objects = [object] ∧
        Registry.wxgo.AttachesAs object call.child)
      (sizer.objects.filter fun item => item.className == "sizeritem")
      (plan.layoutOf sizer.name) := by
  have hrules := wxgo_container?_boxSizer hbase
  have hblock := resolution.block_of_container h hrules
  obtain ⟨placement, -, rfl⟩ := resolution.exists_placement h
  obtain ⟨hslots, hcount⟩ := (placement.calls_of_container hrules).1.boxSizer_slots rfl
  rw [List.filter_eq_self.mpr fun object _ => wxgo_attaches object,
    ← ContainerClass.map_snd_places, List.forall₂_map_left_iff] at hblock
  have := forall₂_of_singletons hcount hblock
  rwa [hslots] at this

/-! ### The layout -/

/-- **Layout is complete, without duplicates and in document order.** It falls into one block for
each container, in the order of construction. A block attaches the spacers and the other objects of
its container that are not passed over. Every member below the first level is attached once, by its
container, and the others are not; and a box sizer of wxGo makes one call for each of its
`sizeritem` elements. -/
theorem layout_of_resolveWindow {registry : Registry} {window : Node} {text : String}
    {plan : WindowPlan} (hparse : Document.parse text = .ok window.document)
    (hplan : (resolveWindow registry window).result = .ok plan) :
    plan.constructions.map Construction.field = (registry.members window).map Node.name ∧
    plan.layout =
      (registry.containers window).flatMap (fun container => plan.layoutOf container.name) ∧
    (∀ container ∈ registry.members window, ∀ rules, registry.container? container = some rules →
      (rules.objectsIn container).Pairwise (fun a b => a.number < b.number) ∧
      List.Forall₂ (fun object call => registry.AttachesAs object call.child)
        ((rules.objectsIn container).filter registry.attaches) (plan.layoutOf container.name)) ∧
    (∀ object ∈ registry.members window, object ∉ window.objects →
      ∃ container ∈ registry.members window, object ∈ registry.kids container ∧
        ∃ call, (plan.layout.filter fun call => call.child = .member object.name) = [call] ∧
          call.parent = container.name) ∧
    (∀ object ∈ registry.members window, object ∈ window.objects →
      ∀ call ∈ plan.layout, call.child ≠ .member object.name) ∧
    (registry = .wxgo → ∀ sizer ∈ registry.members window, sizer.base = "EditBoxSizer" →
      List.Forall₂ (fun item call => ∃ object, item.objects = [object] ∧
          registry.AttachesAs object call.child)
        (sizer.objects.filter fun item => item.className == "sizeritem")
        (plan.layoutOf sizer.name)) := by
  have hwf := Document.wellFormed_of_parse hparse
  obtain ⟨resolution⟩ := exists_resolution hwf hplan
  have hlevels : ∀ object ∈ registry.members window,
      object ∈ registry.roots window ∨ object ∈ registry.deeper window := fun object h =>
    List.mem_append.mp (members_eq_append hwf ▸ h)
  refine ⟨?_, resolution.layout_eq_blocks, fun container hcontainer rules hrules => ⟨?_, ?_⟩,
    fun object hobject hnot => ?_, fun object hobject htop call hcall => ?_, ?_⟩
  · rw [← resolution.names_eq, resolution.constructions_eq, List.map_map]
    rfl
  · exact objectsIn_ordered rules (wellFormed_of_mem_members hwf hcontainer)
  · exact resolution.block_of_container hcontainer hrules
  · rcases hlevels object hobject with hroot | hdeeper
    · exact absurd (List.mem_filter.mp hroot).1 hnot
    · exact resolution.attached_once hwf hdeeper
  · rcases hlevels object hobject with hroot | hdeeper
    · exact resolution.not_attached hwf hroot hcall
    · obtain ⟨container, hcontainer, hkid⟩ := mem_kids_of_mem_deeper hwf hdeeper
      exact absurd htop (not_mem_objects_of_mem_kids hwf hcontainer hkid)
  · rintro rfl sizer hsizer hbase
    exact block_of_boxSizer resolution hsizer hbase

theorem layout_of_resolveWindow_sampleWindow : ∃ plan,
    (resolveWindow .wxgo sampleWindow).result = .ok plan ∧
    plan.layout = plan.layoutOf "page" ++ plan.layoutOf "row" ∧
    List.Forall₂ (fun item call => ∃ object, item.objects = [object] ∧
        Registry.wxgo.AttachesAs object call.child)
      [sampleDocument.node 8] (plan.layoutOf "row") := by
  obtain ⟨plan, hplan⟩ := resolveWindow_sampleWindow
  obtain ⟨-, hblocks, -, -, -, hsizer⟩ :=
    layout_of_resolveWindow parse_sampleText hplan
  have hcontainers : Registry.wxgo.containers sampleWindow =
      [sampleDocument.node 3, sampleDocument.node 4] := by decide +kernel
  have hpage : (sampleDocument.node 3).name = "page" := by decide +kernel
  have hrow : (sampleDocument.node 4).name = "row" := by decide +kernel
  have hitems : (sampleDocument.node 4).objects.filter
      (fun item => item.className == "sizeritem") = [sampleDocument.node 8] := by decide +kernel
  refine ⟨plan, hplan, ?_, ?_⟩
  · rw [hblocks, hcontainers]
    simp [hpage, hrow]
  · have h := hsizer rfl (sampleDocument.node 4) (by decide +kernel) (by decide +kernel)
    rwa [hitems, hrow] at h

end GladeGo
