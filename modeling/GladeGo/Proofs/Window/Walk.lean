import GladeGo.Proofs.Window.Resolution
import GladeGo.Proofs.Window.Fault
import Mathlib.Data.List.Perm.Subperm
import Mathlib.Logic.Relation

/-! # The loop of the walk

`walk` ends because it counts the nodes that it has not visited. The loop itself only knows which
objects it has taken from its queue: `Turn` is one turn of it and `Ends` is how it ends, both without
a bound. The loop that starts with the objects in a window is `walk` (`exists_end`), and all that it
ever takes are distinct nodes inside the window (`TakesOnce`): what has been put into the queue are
the objects in the window and the kids of what has been taken (`Reached`), and these are distinct as
no kid of a member is found twice. -/

namespace GladeGo

/-- A walk on its way. -/
structure Walk where
  /-- The objects taken from the queue so far, in that order. -/
  taken : List Node
  queue : List Pending
  plan : WindowPlan

namespace Walk

/-- The numbers of the objects taken so far. -/
def visited (walk : Walk) : List Nat := walk.taken.map Node.number

/-- All objects that have been put into the queue, in that order. -/
def enqueued (walk : Walk) : List Node := walk.taken ++ walk.queue.map Pending.node

/-- A turn of the loop after which it goes on: it takes a new object from the queue, visits it, and
puts the objects found in it into the queue. -/
inductive Turn (registry : Registry) : Walk → Walk → Prop
  | visit {taken : List Node} {pending : Pending} {queue found : List Pending}
      {plan later : WindowPlan} (hnew : pending.number ∉ taken.map Node.number)
      (hvisit : (GladeGo.visit registry plan pending).result = .ok (later, found)) :
      Turn registry ⟨taken, pending :: queue, plan⟩
        ⟨taken ++ [pending.node], queue ++ found, later⟩

/-- How the loop ends: with an empty queue, in a visit that fails, or when it takes an object from
the queue that it has taken before. -/
inductive Ends (registry : Registry) : Walk → Except ResolutionFault WindowPlan → Prop
  | done (taken : List Node) (plan : WindowPlan) : Ends registry ⟨taken, [], plan⟩ (.ok plan)
  | failed {taken : List Node} {pending : Pending} {queue : List Pending} {plan : WindowPlan}
      {fault : ResolutionFault} (hnew : pending.number ∉ taken.map Node.number)
      (hvisit : (GladeGo.visit registry plan pending).result = .error fault) :
      Ends registry ⟨taken, pending :: queue, plan⟩ (.error fault)
  | again {taken : List Node} {pending : Pending} {queue : List Pending} {plan : WindowPlan}
      (hold : pending.number ∈ taken.map Node.number) :
      Ends registry ⟨taken, pending :: queue, plan⟩
        (.error (.container pending.node.className (pending.node.attributeOrEmpty "name")
          .reachedTwice))

/-- The walk over a window at its start. -/
def start (window : Node) (windowClass : WindowClass) (setters : List SetterCall) : Walk :=
  ⟨[], topObjects window windowClass, startPlan window windowClass setters⟩

/-- The objects that the walk takes are distinct nodes inside the window, no more than the document
has nodes. Those that still wait are counted as well. -/
structure TakesOnce (window : Node) (walk : Walk) : Prop where
  nodup : walk.enqueued.Nodup
  inside : ∀ node ∈ walk.enqueued, window ∈ node.ancestors
  bounded : walk.taken.length + walk.queue.length ≤ window.document.size

/-! ### What a turn keeps -/

/-- What has been put into the queue are the objects in the window and the kids of those members
that have been taken from it. -/
structure Reached (registry : Registry) (window : Node) (walk : Walk) : Prop where
  enqueued_eq : walk.enqueued = window.objects ++
    (walk.taken.filter fun node => !registry.isIgnored node.base).flatMap registry.kids
  nodup : walk.enqueued.Nodup
  mem : ∀ node ∈ walk.enqueued, node ∈ window.objects ∨ node ∈ registry.members window

section Reached
variable {registry : Registry} {window node : Node} {walk later : Walk}
  (hwf : window.document.WellFormed)
include hwf

theorem mem_members_of_not_ignored (h : node ∈ window.objects ∨ node ∈ registry.members window)
    (hignored : registry.isIgnored node.base = false) : node ∈ registry.members window := by
  rcases h with hobject | hmember
  · have hroot : node ∈ registry.roots window :=
      List.mem_filter.mpr ⟨hobject, by simp [hignored]⟩
    rw [members_eq_append hwf]
    exact List.mem_append_left _ hroot
  · exact hmember

/-- The kids of distinct members are distinct from each other and from the objects in the window. -/
theorem nodup_objects_append_kids {taken : List Node} (hnodup : taken.Nodup)
    (hmem : ∀ node ∈ taken, node ∈ registry.members window) :
    (window.objects ++ taken.flatMap registry.kids).Nodup := by
  rw [List.nodup_append']
  refine ⟨Node.nodup_objects hwf, ?_, fun object hobject hkid => ?_⟩
  · refine List.nodup_flatMap.mpr ⟨fun node hnode => ?_, ?_⟩
    · exact nodup_kids (wellFormed_of_mem_members hwf (hmem node hnode))
    · refine hnodup.imp_of_mem fun {a b} ha hb hne x hxa hxb => hne ?_
      exact container_unique hwf (hmem a ha) (hmem b hb) hxa hxb
  · obtain ⟨container, hcontainer, hkid⟩ := List.mem_flatMap.mp hkid
    exact not_mem_objects_of_mem_kids hwf (hmem container hcontainer) hkid hobject

theorem reached_start (windowClass : WindowClass) (setters : List SetterCall) :
    Reached registry window (start window windowClass setters) := by
  have henqueued : (start window windowClass setters).enqueued = window.objects := by
    rw [enqueued, start, List.nil_append, map_node_topObjects]
  refine ⟨by rw [henqueued]; simp [start], ?_, fun node hnode => Or.inl (henqueued ▸ hnode)⟩
  exact henqueued ▸ Node.nodup_objects hwf

/-- **A turn finds no object a second time.** -/
theorem Reached.turn (h : Reached registry window walk) (hturn : Turn registry walk later) :
    Reached registry window later := by
  obtain @⟨taken, pending, queue, found, plan, plan', hnew, hvisit⟩ := hturn
  obtain ⟨henqueued, hnodup, hmem⟩ := h
  simp only [enqueued, List.map_cons] at henqueued hnodup hmem
  -- What the turn adds are the kids of the object, if that is not passed over.
  have hfound : found.map Pending.node =
      ([pending.node].filter fun node => !registry.isIgnored node.base).flatMap registry.kids := by
    rw [result_visit] at hvisit
    split at hvisit
    · rename_i hignored
      cases hvisit
      simp [hignored]
    · rename_i hignored
      rw [Bool.not_eq_true] at hignored
      cases hadd : addObject registry plan pending with
      | error fault => rw [hadd] at hvisit; cases hvisit
      | ok plan'' =>
        rw [hadd] at hvisit
        cases hvisit
        simp [hignored, registry.map_node_inside]
  have hnext : (⟨taken ++ [pending.node], queue ++ found, plan'⟩ : Walk).enqueued =
      window.objects ++ ((taken ++ [pending.node]).filter fun node =>
        !registry.isIgnored node.base).flatMap registry.kids := by
    rw [List.filter_append, List.flatMap_append, ← hfound, ← List.append_assoc, ← henqueued]
    simp [enqueued]
  have htaken : ∀ node ∈ taken ++ [pending.node],
      node ∈ window.objects ∨ node ∈ registry.members window := by
    intro node hnode
    refine hmem node ?_
    rw [List.append_cons]
    exact List.mem_append_left _ hnode
  have hmembers : ∀ node ∈ (taken ++ [pending.node]).filter fun node =>
      !registry.isIgnored node.base, node ∈ registry.members window := by
    intro node hnode
    obtain ⟨hnode, hignored⟩ := List.mem_filter.mp hnode
    exact mem_members_of_not_ignored hwf (htaken node hnode) (by simpa using hignored)
  refine ⟨hnext, ?_, fun node hnode => ?_⟩
  · rw [hnext]
    refine nodup_objects_append_kids hwf (List.Nodup.filter _ ?_) hmembers
    rw [List.append_cons] at hnodup
    exact hnodup.of_append_left
  · rw [hnext] at hnode
    rcases List.mem_append.mp hnode with hobject | hkid
    · exact Or.inl hobject
    · obtain ⟨container, hcontainer, hkid⟩ := List.mem_flatMap.mp hkid
      exact Or.inr (mem_members_of_mem_kids hwf (hmembers container hcontainer) hkid)

theorem reached_of_turns {first : Walk} (h : Reached registry window first)
    (hturns : Relation.ReflTransGen (Turn registry) first walk) :
    Reached registry window walk := by
  induction hturns with
  | refl => exact h
  | tail _ hturn ih => exact ih.turn hwf hturn

/-! ### Inside the window -/

theorem number_lt_size_of_reached (h : Reached registry window walk)
    (hnode : node ∈ walk.enqueued) :
    node.document = window.document ∧ node.number < window.document.size := by
  rcases h.mem node hnode with hobject | hmember
  · have hdocument := Node.document_of_mem_objects hwf hobject
    have hsize := Node.number_lt_size (Node.parent_of_mem_objects hwf hobject)
    exact ⟨hdocument, hdocument ▸ hsize⟩
  · exact ⟨document_of_mem_members hwf hmember, number_lt_size_of_mem_members hwf hmember⟩

theorem Reached.nodup_number (h : Reached registry window walk) :
    (walk.enqueued.map Node.number).Nodup := by
  refine List.Nodup.map_on (fun a ha b hb heq => Node.ext ?_ heq) h.nodup
  rw [(number_lt_size_of_reached hwf h ha).1, (number_lt_size_of_reached hwf h hb).1]

/-- All that has been put into the queue is one of the nodes of the document that are inside the
window, and none of them twice. -/
theorem Reached.takesOnce (h : Reached registry window walk) : TakesOnce window walk where
  nodup := h.nodup
  inside node hnode := by
    rcases h.mem node hnode with hobject | hmember
    · exact (holdsObject_of_mem_objects hwf (Or.inl rfl) hobject).inside
    · exact (holdsObject_of_mem_members hwf hmember).inside
  bounded := by
    have hsubset : walk.enqueued.map Node.number ⊆ List.range window.document.size := by
      intro number hnumber
      obtain ⟨node, hnode, rfl⟩ := List.mem_map.mp hnumber
      exact List.mem_range.mpr (number_lt_size_of_reached hwf h hnode).2
    have hle := (List.subperm_of_subset (h.nodup_number hwf) hsubset).length_le
    simpa [enqueued] using hle

/-- The object at the head of the queue is new. -/
theorem Reached.head_new {taken : List Node} {pending : Pending} {queue : List Pending}
    {plan : WindowPlan} (h : Reached registry window ⟨taken, pending :: queue, plan⟩) :
    pending.number ∉ taken.map Node.number := by
  have hnodup := h.nodup_number hwf
  simp only [enqueued, List.map_append, List.map_cons] at hnodup
  exact fun hold => (List.nodup_append'.mp hnodup).2.2 hold List.mem_cons_self

/-! ### The end -/

/-- **The loop ends, and with the result of `walk`**, when that has not visited the nodes that the
loop has not taken. -/
theorem exists_end {fresh : List Nat} (h : Reached registry window walk)
    (hfresh : fresh = (List.range window.document.size).diff walk.visited) :
    ∃ last, Relation.ReflTransGen (Turn registry) walk last ∧
      last.Ends registry (GladeGo.walk registry fresh walk.queue walk.plan).result := by
  induction hlength : fresh.length using Nat.strongRecOn generalizing walk fresh with
  | ind length ih =>
    obtain ⟨taken, queue, plan⟩ := walk
    cases queue with
    | nil =>
      refine ⟨_, .refl, ?_⟩
      rw [GladeGo.walk]
      exact .done taken plan
    | cons pending queue =>
      have hnew := h.head_new hwf
      have hmem : pending.number ∈ fresh := by
        have henqueued : pending.node ∈ (⟨taken, pending :: queue, plan⟩ : Walk).enqueued := by
          simp [enqueued]
        have hsize := (number_lt_size_of_reached hwf h henqueued).2
        exact hfresh ▸ List.mem_diff_of_mem (List.mem_range.mpr hsize) hnew
      rw [GladeGo.walk, dif_pos hmem, Logged.result_bind]
      cases hvisit : (GladeGo.visit registry plan pending).result with
      | error fault => exact ⟨_, .refl, .failed hnew hvisit⟩
      | ok visited =>
        have hturn : Turn registry ⟨taken, pending :: queue, plan⟩
          ⟨taken ++ [pending.node], queue ++ visited.2, visited.1⟩ := .visit hnew hvisit
        have hrest : fresh.erase pending.number =
            (List.range window.document.size).diff
              ((taken ++ [pending.node]).map Node.number) := by
          rw [hfresh, List.map_append, List.diff_append, List.map_singleton, List.diff_cons,
            List.diff_nil]
          rfl
        have hlt : (fresh.erase pending.number).length < length := by
          have hpos := List.length_pos_of_mem hmem
          rw [List.length_erase_of_mem hmem]
          omega
        obtain ⟨last, hturns, hends⟩ := ih _ hlt (h.turn hwf hturn) hrest rfl
        exact ⟨last, .head hturn hturns, hends⟩

end Reached

/-- A loop of which no turn finds an object a second time does not end with the fault of that. -/
theorem Ends.noRevisit {registry : Registry} {window : Node} {walk : Walk}
    {result : Except ResolutionFault WindowPlan} (hwf : window.document.WellFormed)
    (h : Reached registry window walk) (hends : walk.Ends registry result) : NoRevisit result := by
  cases hends with
  | done taken plan => exact failsOnlyWith_ok plan
  | failed hnew hvisit =>
    exact failsOnlyWith_error (noRevisit_visit registry _ _ _ hvisit)
  | again hold => exact absurd hold (h.head_new hwf)

end Walk

/-- **The walk takes every object at most once, and it ends.** Whatever the registry, all that the
loop over a window has put into its queue, at any time, are distinct nodes inside the window, no more
than the document has nodes; the loop ends with the result of the window; and that result never says
that an object has been reached before. -/
theorem takesOnce_of_turns {registry : Registry} {window : Node} {text : String}
    (hparse : Document.parse text = .ok window.document) :
    (∀ windowClass setters walk, Relation.ReflTransGen (Walk.Turn registry)
        (Walk.start window windowClass setters) walk → walk.TakesOnce window) ∧
    (∀ windowClass setters, window.className ≠ "" →
      registry.window? window.base = some windowClass →
      setterCalls none window windowClass.properties = .ok setters →
      ∃ last, Relation.ReflTransGen (Walk.Turn registry)
          (Walk.start window windowClass setters) last ∧
        last.Ends registry (resolveWindow registry window).result) ∧
    ∀ className name, (resolveWindow registry window).result ≠
      .error (.container className name .reachedTwice) := by
  have hwf := Document.wellFormed_of_parse hparse
  have hend : ∀ windowClass setters, ∃ last,
      Relation.ReflTransGen (Walk.Turn registry) (Walk.start window windowClass setters) last ∧
      last.Ends registry (walk registry (List.range window.document.size)
        (topObjects window windowClass) (startPlan window windowClass setters)).result :=
    fun windowClass setters =>
      Walk.exists_end hwf (Walk.reached_start hwf windowClass setters) rfl
  refine ⟨fun windowClass setters walk hturns => ?_, fun windowClass setters hname hclass hsetters =>
    ?_, fun className name h => ?_⟩
  · exact (Walk.reached_of_turns hwf (Walk.reached_start hwf windowClass setters) hturns).takesOnce
      hwf
  · rw [result_resolveWindow hname hclass hsetters]
    exact hend windowClass setters
  · refine noRevisit_resolveWindow (fun windowClass setters => ?_) _ h trivial
    obtain ⟨last, hturns, hends⟩ := hend windowClass setters
    exact hends.noRevisit hwf
      (Walk.reached_of_turns hwf (Walk.reached_start hwf windowClass setters) hturns)

theorem takesOnce_of_turns_sampleWindow : ∃ setters last plan,
    Relation.ReflTransGen (Walk.Turn .wxgo)
      (Walk.start sampleWindow (wxWindow "Frame") setters) last ∧
    last.Ends .wxgo (resolveWindow .wxgo sampleWindow).result ∧
    (resolveWindow .wxgo sampleWindow).result = .ok plan ∧ last.TakesOnce sampleWindow := by
  obtain ⟨hturns, hends, -⟩ :=
    @takesOnce_of_turns .wxgo sampleWindow sampleText parse_sampleText
  have hsetters : (setterCalls none sampleWindow (wxWindow "Frame").properties).toOption =
      some [] := by decide +kernel
  obtain ⟨last, hlast, hend⟩ := hends (wxWindow "Frame") [] (by decide +kernel) rfl
    (eq_ok_of_toOption hsetters)
  obtain ⟨plan, hplan⟩ := resolveWindow_sampleWindow
  exact ⟨[], last, plan, hlast, hend, hplan, hturns _ _ _ hlast⟩

end GladeGo
