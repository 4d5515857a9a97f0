import GladeGo.Proofs.Window.LevelOrder
import GladeGo.Proofs.Window.Placement

/-! # The walk and the level order

The queue of the walk is always the rest of a level, followed by what stands inside the objects of
that level which have been visited. So the walk adds the objects of one level after the other
(`result_walk_append`), and since no object is reached twice it adds the members of the window in
level order (`result_walk`). -/

namespace GladeGo

/-- The number of the node that waits. -/
abbrev Pending.number (pending : Pending) : Nat := pending.node.number

/-- Whether an object is added when it is visited: it is not passed over. -/
def Registry.adds (registry : Registry) (pending : Pending) : Bool :=
  !registry.isIgnored pending.node.base

/-- The objects that become members of a window, in level order, as they are visited. -/
def Registry.listing (registry : Registry) (window : Node) (windowClass : WindowClass) :
    List Pending :=
  levelOrder registry.inside ((topObjects window windowClass).filter registry.adds)
    window.document.size

/-! ### Level after level -/

/-- The walk adds the objects of a level before it comes to what is inside them. -/
theorem result_walk_append (registry : Registry) {level : List Pending} (rest : List Pending)
    (fresh : List Nat) (plan : WindowPlan) (hnodup : (level.map Pending.number).Nodup)
    (hfresh : ∀ pending ∈ level, pending.number ∈ fresh) :
    (walk registry fresh (level ++ rest) plan).result =
      (level.filter registry.adds).foldlM (addObject registry) plan >>= fun later =>
        (walk registry (fresh.diff (level.map Pending.number))
          (rest ++ (level.filter registry.adds).flatMap registry.inside) later).result := by
  induction level generalizing rest fresh plan with
  | nil => simp [pure, Except.pure, ok_bind]
  | cons pending level ih =>
    obtain ⟨hnumber, hnodup⟩ := List.nodup_cons.mp hnodup
    have hrest : ∀ other ∈ level, other.number ∈ fresh.erase pending.number := by
      intro other hother
      have hne : other.number ≠ pending.number := fun heq =>
        hnumber (heq ▸ List.mem_map_of_mem hother)
      exact (List.mem_erase_of_ne hne).mpr (hfresh other (List.mem_cons_of_mem _ hother))
    have hpending : pending.node.number ∈ fresh := hfresh pending List.mem_cons_self
    rw [List.cons_append, walk, dif_pos hpending, Logged.result_bind, result_visit, List.map_cons,
      List.diff_cons]
    cases hignored : registry.isIgnored pending.node.base with
    | true =>
      have hadds : registry.adds pending = false := by simp [Registry.adds, hignored]
      rw [if_pos rfl, ok_bind, List.filter_cons_of_neg (by simp [hadds])]
      dsimp only
      rw [List.append_nil]
      exact ih rest _ plan hnodup hrest
    | false =>
      have hadds : registry.adds pending = true := by simp [Registry.adds, hignored]
      rw [if_neg (by simp), List.filter_cons_of_pos hadds, List.foldlM_cons, List.flatMap_cons]
      cases addObject registry plan pending with
      | error fault => rfl
      | ok later =>
        rw [Except.map, ok_bind, ok_bind]
        dsimp only
        rw [List.append_assoc, ih (rest ++ registry.inside pending) _ later hnodup hrest,
          List.append_assoc]

theorem adds_of_mem_inside {registry : Registry} {pending found : Pending}
    (h : found ∈ registry.inside pending) : registry.adds found = true := by
  have hnode : found.node ∈ registry.kids pending.node := by
    rw [← Registry.map_node_inside]
    exact List.mem_map_of_mem h
  obtain ⟨-, -, -, hvisits⟩ := Registry.mem_kids.mp hnode
  simp [Registry.adds, Registry.not_ignored_of_visits hvisits]

/-- **The walk adds a forest in level order** if it has not come to any of its elements, none of
them is passed over, and the forest is without repetition and has at most `depth` levels. -/
theorem result_walk {registry : Registry} (depth : Nat) {level : List Pending} {fresh : List Nat}
    (plan : WindowPlan) (hadds : ∀ pending ∈ level, registry.adds pending = true)
    (hend : generation registry.inside level depth = [])
    (hnodup : ((levelOrder registry.inside level depth).map Pending.number).Nodup)
    (hfresh : ∀ pending ∈ levelOrder registry.inside level depth, pending.number ∈ fresh) :
    (walk registry fresh level plan).result =
      (levelOrder registry.inside level depth).foldlM (addObject registry) plan := by
  induction depth generalizing level fresh plan with
  | zero =>
    obtain rfl : level = [] := hend
    rw [walk]
    rfl
  | succ depth ih =>
    rw [levelOrder_flatMap] at hnodup hfresh ⊢
    rw [List.map_append, List.nodup_append'] at hnodup
    obtain ⟨hlevel, hdeeper, hdisjoint⟩ := hnodup
    have hstep := result_walk_append registry [] fresh plan hlevel fun pending h =>
      hfresh pending (List.mem_append_left _ h)
    rw [List.append_nil, List.nil_append, List.filter_eq_self.mpr hadds] at hstep
    rw [hstep, List.foldlM_append]
    congr 1
    funext later
    refine ih later ?_ ((generation_flatMap _ _ _).trans hend) hdeeper fun pending h => ?_
    · intro pending h
      obtain ⟨above, -, habove⟩ := List.mem_flatMap.mp h
      exact adds_of_mem_inside habove
    · refine List.mem_diff_of_mem (hfresh pending (List.mem_append_right _ h)) fun hmem => ?_
      exact hdisjoint hmem (List.mem_map_of_mem h)

/-! ### The walk over a window -/

section Window
variable {registry : Registry} {window object : Node} (windowClass : WindowClass)

theorem map_node_topObjects :
    (topObjects window windowClass).map Pending.node = window.objects := by
  simp [topObjects, Function.comp_def]

theorem map_number_topObjects :
    (topObjects window windowClass).map Pending.number = window.objects.map Node.number := by
  rw [← map_node_topObjects windowClass, List.map_map]
  rfl

theorem map_node_filter_topObjects (registry : Registry) :
    ((topObjects window windowClass).filter registry.adds).map Pending.node =
      registry.roots window := by
  simp [topObjects, List.filter_map, Registry.roots, Registry.adds, Function.comp_def]

theorem Registry.map_node_listing (registry : Registry) :
    (registry.listing window windowClass).map Pending.node = registry.members window := by
  rw [listing, map_levelOrder registry.map_node_inside, map_node_filter_topObjects]
  rfl

/-- The levels of the members of a window after the first. -/
def Registry.deeper (registry : Registry) (window : Node) : List Node :=
  levelOrder registry.kids ((registry.roots window).flatMap registry.kids) window.document.size

/-- The levels of the listing of a window after the first. -/
def Registry.deeperListing (registry : Registry) (window : Node) (windowClass : WindowClass) :
    List Pending :=
  levelOrder registry.inside
    (((topObjects window windowClass).filter registry.adds).flatMap registry.inside)
    window.document.size

theorem Registry.map_node_deeperListing (registry : Registry) :
    (registry.deeperListing window windowClass).map Pending.node = registry.deeper window := by
  rw [deeperListing, map_levelOrder registry.map_node_inside, List.map_flatMap]
  simp only [registry.map_node_inside]
  rw [← List.flatMap_map, map_node_filter_topObjects]
  rfl

variable (hwf : window.document.WellFormed)
include hwf

theorem members_eq_append :
    registry.members window = registry.roots window ++ registry.deeper window := by
  have hend := generation_eq_nil registry hwf (Nat.le_refl _)
  rw [Registry.deeper, ← levelOrder_flatMap, levelOrder_succ, hend, List.append_nil]
  rfl

theorem generation_inside_eq_nil :
    generation registry.inside ((topObjects window windowClass).filter registry.adds)
      window.document.size = [] := by
  have hend := generation_eq_nil registry hwf (Nat.le_refl _)
  rw [← map_node_filter_topObjects windowClass, ← map_generation registry.map_node_inside] at hend
  exact List.map_eq_nil_iff.mp hend

theorem listing_eq_append : registry.listing window windowClass =
    (topObjects window windowClass).filter registry.adds ++
      registry.deeperListing window windowClass := by
  rw [Registry.deeperListing, ← levelOrder_flatMap, levelOrder_succ,
    generation_inside_eq_nil windowClass hwf, List.append_nil]
  rfl

theorem mem_members_of_mem_deeper (h : object ∈ registry.deeper window) :
    object ∈ registry.members window :=
  members_eq_append hwf ▸ List.mem_append_right _ h

theorem mem_kids_of_mem_deeper (h : object ∈ registry.deeper window) :
    ∃ container ∈ registry.members window, object ∈ registry.kids container := by
  obtain ⟨depth, -, h⟩ := List.mem_flatMap.mp h
  rw [generation_flatMap] at h
  obtain ⟨container, hcontainer, hkid⟩ := mem_generation_succ.mp h
  exact ⟨container, (mem_members_iff hwf).mpr ⟨depth, hcontainer⟩, hkid⟩

variable (registry) in
theorem nodup_number_deeper : ((registry.deeper window).map Node.number).Nodup := by
  have hnodup : (registry.deeper window).Nodup :=
    (members_eq_append hwf ▸ nodup_members hwf).of_append_right
  refine List.Nodup.map_on (fun a ha b hb heq => Node.ext ?_ heq) hnodup
  rw [document_of_mem_members hwf (mem_members_of_mem_deeper hwf ha),
    document_of_mem_members hwf (mem_members_of_mem_deeper hwf hb)]

/-- What is below the first level has not been visited with the first level. -/
theorem number_fresh_of_mem_deeper (h : object ∈ registry.deeper window) :
    object.number ∈
      (List.range window.document.size).diff (window.objects.map Node.number) := by
  have hmember := mem_members_of_mem_deeper hwf h
  refine List.mem_diff_of_mem (List.mem_range.mpr ?_) fun hnumber => ?_
  · exact number_lt_size_of_mem_members hwf hmember
  · obtain ⟨top, htop, heq⟩ := List.mem_map.mp hnumber
    obtain ⟨container, hcontainer, hkid⟩ := mem_kids_of_mem_deeper hwf h
    have hdocument := document_of_mem_members hwf hmember
    obtain rfl : top = object :=
      Node.ext ((Node.document_of_mem_objects hwf htop).trans hdocument.symm) heq
    exact not_mem_objects_of_mem_kids hwf hcontainer hkid htop

/-- The walk over a window adds its members in level order. -/
theorem result_walk_window (plan : WindowPlan) :
    (walk registry (List.range window.document.size) (topObjects window windowClass) plan).result =
      (registry.listing window windowClass).foldlM (addObject registry) plan := by
  have hnodup : ((topObjects window windowClass).map Pending.number).Nodup := by
    rw [map_number_topObjects]
    exact List.pairwise_map.mpr ((Node.objects_ordered hwf).imp Nat.ne_of_lt)
  have hfresh : ∀ pending ∈ topObjects window windowClass,
      pending.number ∈ List.range window.document.size := by
    intro pending h
    have hobject : pending.node ∈ window.objects :=
      map_node_topObjects windowClass ▸ List.mem_map_of_mem h
    have hsize := Node.number_lt_size (Node.parent_of_mem_objects hwf hobject)
    rw [Node.document_of_mem_objects hwf hobject] at hsize
    exact List.mem_range.mpr hsize
  -- The first level may hold objects that are passed over; the others do not.
  have hfirst := result_walk_append registry [] _ plan hnodup hfresh
  rw [List.append_nil, List.nil_append, map_number_topObjects] at hfirst
  rw [hfirst, listing_eq_append windowClass hwf, List.foldlM_append]
  congr 1
  funext later
  refine result_walk window.document.size later ?_ ?_ ?_ ?_
  · intro pending h
    obtain ⟨above, -, habove⟩ := List.mem_flatMap.mp h
    exact adds_of_mem_inside habove
  · rw [generation_flatMap, generation, generation_inside_eq_nil windowClass hwf]
    rfl
  · have hnumber := nodup_number_deeper registry hwf
    rw [← registry.map_node_deeperListing windowClass, List.map_map] at hnumber
    exact hnumber
  · intro pending h
    have hdeeper : pending.node ∈ registry.deeper window :=
      registry.map_node_deeperListing windowClass ▸ List.mem_map_of_mem h
    exact number_fresh_of_mem_deeper hwf hdeeper

end Window

end GladeGo
