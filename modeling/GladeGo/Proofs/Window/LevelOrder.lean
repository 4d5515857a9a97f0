import GladeGo.Proofs.Document.Tree
import GladeGo.Proofs.Window.Kids
import Mathlib.Data.List.Nodup

/-! # Level order

A forest is given by its roots and by what stands directly inside each of its elements; `levelOrder`
lists its levels one after the other. If no element stands in two others and no root stands in an
element, the list is without repetition (`nodup_levelOrder`).

The members of a window are the forest of `kids` over the objects in the window. An element of a
window may be found from its parent, or from the parent of the item around it; it is never found
from both, since no item around a member is itself a member (`items_eq_none_of_parent`). -/

namespace GladeGo

variable {α β : Type}

/-! ### Forests -/

section Forest
variable (next : α → List α) (roots : List α)

/-- A level of the forest, counted from the roots. -/
def generation : Nat → List α
  | 0 => roots
  | depth + 1 => (generation depth).flatMap next

/-- The first levels of the forest, one after the other. -/
def levelOrder (depth : Nat) : List α := (List.range depth).flatMap (generation next roots)

/-- The element is in some level of the forest. -/
def InForest (a : α) : Prop := ∃ depth, a ∈ generation next roots depth

theorem levelOrder_succ (depth : Nat) : levelOrder next roots (depth + 1) =
    levelOrder next roots depth ++ generation next roots depth := by
  simp [levelOrder, List.range_succ]

/-- The levels after the first are those of the forest with the second level as its roots. -/
theorem generation_flatMap (depth : Nat) :
    generation next (roots.flatMap next) depth = generation next roots (depth + 1) := by
  induction depth with
  | zero => rfl
  | succ depth ih => rw [generation, ih]; rfl

theorem levelOrder_flatMap (depth : Nat) : levelOrder next roots (depth + 1) =
    roots ++ levelOrder next (roots.flatMap next) depth := by
  rw [levelOrder, List.range_succ_eq_map, List.flatMap_cons, List.flatMap_map, levelOrder,
    funext (generation_flatMap next roots)]
  rfl

theorem flatMap_levelOrder (depth : Nat) : (levelOrder next roots depth).flatMap next =
    levelOrder next (roots.flatMap next) depth := by
  rw [levelOrder, levelOrder, List.flatMap_assoc, funext (generation_flatMap next roots)]
  rfl

variable {next roots}

theorem mem_generation_succ {a : α} {depth : Nat} :
    a ∈ generation next roots (depth + 1) ↔ ∃ b ∈ generation next roots depth, a ∈ next b :=
  List.mem_flatMap

theorem map_generation {f : α → β} {next' : β → List β}
    (h : ∀ a, (next a).map f = next' (f a)) (depth : Nat) :
    (generation next roots depth).map f = generation next' (roots.map f) depth := by
  induction depth with
  | zero => rfl
  | succ depth ih => simp only [generation, List.map_flatMap, h, ← ih, List.flatMap_map]

theorem map_levelOrder {f : α → β} {next' : β → List β}
    (h : ∀ a, (next a).map f = next' (f a)) (depth : Nat) :
    (levelOrder next roots depth).map f = levelOrder next' (roots.map f) depth := by
  simp only [levelOrder, List.map_flatMap, map_generation h]

theorem generation_eq_nil_of_le {depth deeper : Nat} (hend : generation next roots depth = [])
    (hle : depth ≤ deeper) : generation next roots deeper = [] := by
  induction hle with
  | refl => exact hend
  | step _ ih => rw [generation, ih, List.flatMap_nil]

/-- Behind an empty level there is nothing to be listed. -/
theorem levelOrder_eq_of_le {depth deeper : Nat} (hend : generation next roots depth = [])
    (hle : depth ≤ deeper) : levelOrder next roots deeper = levelOrder next roots depth := by
  induction hle with
  | refl => rfl
  | step hle ih => rw [levelOrder_succ, ih, generation_eq_nil_of_le hend hle, List.append_nil]

theorem levelOrder_nil (depth : Nat) : levelOrder next [] depth = [] :=
  levelOrder_eq_of_le rfl (Nat.zero_le depth)

/-- Forests with related roots, in which related elements have related ones in them, have related
levels. -/
theorem forall₂_levelOrder {R : α → β → Prop} {next' : β → List β} {roots' : List β}
    (hroots : List.Forall₂ R roots roots')
    (hnext : ∀ a b, R a b → List.Forall₂ R (next a) (next' b)) (depth : Nat) :
    List.Forall₂ R (levelOrder next roots depth) (levelOrder next' roots' depth) := by
  induction depth generalizing roots roots' with
  | zero => exact .nil
  | succ depth ih =>
    rw [levelOrder_flatMap, levelOrder_flatMap]
    exact List.rel_append hroots (ih (List.rel_flatMap hroots hnext))

/-- The levels follow one another. -/
theorem levelOrder_pairwise (depth : Nat) : (levelOrder next roots depth).Pairwise fun a b =>
    ∃ i j, i ≤ j ∧ a ∈ generation next roots i ∧ b ∈ generation next roots j := by
  refine List.pairwise_flatMap.mpr ⟨fun i _ => ?_, ?_⟩
  · exact List.pairwise_of_forall_mem_list fun a ha b hb => ⟨i, i, Nat.le_refl i, ha, hb⟩
  · exact List.pairwise_lt_range.imp fun {i j} hlt a ha b hb => ⟨i, j, Nat.le_of_lt hlt, ha, hb⟩

variable (hnext : ∀ a, InForest next roots a → (next a).Nodup)
  (hunique : ∀ a b x, InForest next roots a → InForest next roots b →
    x ∈ next a → x ∈ next b → a = b)
  (hroot : ∀ a x, InForest next roots a → x ∈ next a → x ∉ roots)
include hunique hroot

/-- An element is in one level only. -/
theorem depth_unique {a : α} {i j : Nat} (hi : a ∈ generation next roots i)
    (hj : a ∈ generation next roots j) : i = j := by
  induction i generalizing a j with
  | zero =>
    rcases j with _ | j
    · rfl
    · obtain ⟨b, hb, hab⟩ := mem_generation_succ.mp hj
      exact absurd hi (hroot b a ⟨j, hb⟩ hab)
  | succ i ih =>
    obtain ⟨b, hb, hab⟩ := mem_generation_succ.mp hi
    rcases j with _ | j
    · exact absurd hj (hroot b a ⟨i, hb⟩ hab)
    · obtain ⟨c, hc, hac⟩ := mem_generation_succ.mp hj
      obtain rfl := hunique b c a ⟨i, hb⟩ ⟨j, hc⟩ hab hac
      rw [ih hb hc]

include hnext

/-- **The levels of a forest are without repetition.** -/
theorem nodup_levelOrder (hroots : roots.Nodup) (depth : Nat) :
    (levelOrder next roots depth).Nodup := by
  have hlevel : ∀ depth, (generation next roots depth).Nodup := by
    intro depth
    induction depth with
    | zero => exact hroots
    | succ depth ih =>
      refine List.nodup_flatMap.mpr ⟨fun a ha => hnext a ⟨depth, ha⟩, ?_⟩
      refine ih.imp_of_mem fun {a b} ha hb hne x hxa hxb => hne ?_
      exact hunique a b x ⟨depth, ha⟩ ⟨depth, hb⟩ hxa hxb
  refine List.nodup_flatMap.mpr ⟨fun d _ => hlevel d, ?_⟩
  exact List.nodup_range.imp fun {i j} hne a hi hj => hne (depth_unique hunique hroot hi hj)

end Forest

/-! ### Where kids stand -/

section Kids
variable {registry : Registry} {node object : Node}

theorem parent_of_mem_objectsIn {rules : ContainerClass} (hwf : node.document.WellFormed)
    (h : object ∈ rules.objectsIn node) :
    (rules.items = none ∧ object.parent? = some node) ∨
      (rules.items ≠ none ∧ ∃ item, object.parent? = some item ∧ item.parent? = some node) := by
  obtain ⟨slot, hslot, hobject⟩ := List.mem_flatMap.mp h
  unfold ContainerClass.slots at hslot
  cases hitems : rules.items with
  | none =>
    obtain rfl : slot = node := by simpa [hitems] using hslot
    exact Or.inl ⟨rfl, Node.parent_of_mem_objects hwf hobject⟩
  | some items =>
    rw [hitems] at hslot
    have hitem := (List.mem_filter.mp hslot).1
    have hdocument := Node.document_of_mem_objects hwf hitem
    exact Or.inr ⟨by simp, slot, Node.parent_of_mem_objects (hdocument ▸ hwf) hobject,
      Node.parent_of_mem_objects hwf hitem⟩

/-- A kid stands in its container, or in an item of it. -/
theorem parent_of_mem_kids (hwf : node.document.WellFormed) (h : object ∈ registry.kids node) :
    ∃ rules, registry.container? node = some rules ∧
      ((rules.items = none ∧ object.parent? = some node) ∨
        (rules.items ≠ none ∧ ∃ item, object.parent? = some item ∧ item.parent? = some node)) := by
  obtain ⟨rules, hrules, hobject, -⟩ := Registry.mem_kids.mp h
  exact ⟨rules, hrules, parent_of_mem_objectsIn hwf hobject⟩

theorem document_of_mem_kids (hwf : node.document.WellFormed) (h : object ∈ registry.kids node) :
    object.document = node.document := by
  obtain ⟨rules, -, ⟨-, hparent⟩ | ⟨-, item, hparent, hitem⟩⟩ := parent_of_mem_kids hwf h
  · exact (Node.document_of_parent hparent).symm
  · rw [← Node.document_of_parent hparent, Node.document_of_parent hitem]

theorem number_lt_of_mem_kids (hwf : node.document.WellFormed) (h : object ∈ registry.kids node) :
    node.number < object.number := by
  have hobject : object.document.WellFormed := document_of_mem_kids hwf h ▸ hwf
  obtain ⟨rules, -, ⟨-, hparent⟩ | ⟨-, item, hparent, hitem⟩⟩ := parent_of_mem_kids hwf h
  · exact Node.number_lt_of_parent hobject hparent
  · have hitemwf : item.document.WellFormed := Node.document_of_parent hitem ▸ hwf
    exact Nat.lt_trans (Node.number_lt_of_parent hitemwf hitem)
      (Node.number_lt_of_parent hobject hparent)

theorem number_lt_size_of_mem_kids (hwf : node.document.WellFormed)
    (h : object ∈ registry.kids node) : object.number < object.document.size := by
  obtain ⟨rules, -, ⟨-, hparent⟩ | ⟨-, item, hparent, -⟩⟩ := parent_of_mem_kids hwf h
  · exact Node.number_lt_size hparent
  · exact Node.number_lt_size hparent

/-- The objects in a container are in document order. -/
theorem objectsIn_ordered (rules : ContainerClass) (hwf : node.document.WellFormed) :
    (rules.objectsIn node).Pairwise fun a b => a.number < b.number := by
  unfold ContainerClass.objectsIn ContainerClass.slots
  cases rules.items with
  | none => simpa using Node.objects_ordered hwf
  | some items =>
    refine Node.objects_of_siblings_ordered hwf (fun item hitem => ?_)
      ((Node.objects_ordered hwf).filter _)
    exact Node.parent_of_mem_objects hwf (List.mem_filter.mp hitem).1

theorem nodup_kids (hwf : node.document.WellFormed) : (registry.kids node).Nodup := by
  unfold Registry.kids
  cases registry.container? node with
  | none => exact List.nodup_nil
  | some rules =>
    refine List.Nodup.filter _ ((objectsIn_ordered rules hwf).imp fun hlt heq => ?_)
    exact Nat.lt_irrefl _ (heq ▸ hlt)

end Kids

/-! ### The members of a window -/

/-- The objects directly in a window that are not passed over. -/
def Registry.roots (registry : Registry) (window : Node) : List Node :=
  window.objects.filter fun object => !registry.isIgnored object.base

/-- The objects that become members of a window, in level order. -/
def Registry.members (registry : Registry) (window : Node) : List Node :=
  levelOrder registry.kids (registry.roots window) window.document.size

section Members
variable {registry : Registry} {window object container : Node}
  (hwf : window.document.WellFormed)
include hwf

/-- The levels are bounded by the numbers of the nodes in them. -/
theorem number_of_mem_generation {depth : Nat}
    (h : object ∈ generation registry.kids (registry.roots window) depth) :
    object.document = window.document ∧ window.number + depth < object.number ∧
      object.number < window.document.size := by
  induction depth generalizing object with
  | zero =>
    have hobject := (List.mem_filter.mp h).1
    have hdocument := Node.document_of_mem_objects hwf hobject
    have hparent := Node.parent_of_mem_objects hwf hobject
    have hsize := Node.number_lt_size hparent
    rw [hdocument] at hsize
    exact ⟨hdocument, Node.number_lt_of_parent (hdocument ▸ hwf) hparent, hsize⟩
  | succ depth ih =>
    obtain ⟨above, habove, hkid⟩ := mem_generation_succ.mp h
    obtain ⟨hdocument, hlt, -⟩ := ih habove
    have hwf' : above.document.WellFormed := hdocument ▸ hwf
    have hlt' := number_lt_of_mem_kids hwf' hkid
    have hsize := number_lt_size_of_mem_kids hwf' hkid
    rw [document_of_mem_kids hwf' hkid, hdocument] at hsize
    exact ⟨(document_of_mem_kids hwf' hkid).trans hdocument, by omega, hsize⟩

variable (registry) in
/-- There are no more levels than nodes. -/
theorem generation_eq_nil {depth : Nat} (h : window.document.size ≤ depth) :
    generation registry.kids (registry.roots window) depth = [] := by
  refine List.eq_nil_iff_forall_not_mem.mpr fun object hobject => ?_
  have := number_of_mem_generation hwf hobject
  omega

theorem mem_members_iff : object ∈ registry.members window ↔
    InForest registry.kids (registry.roots window) object := by
  simp only [Registry.members, levelOrder, List.mem_flatMap, List.mem_range]
  constructor
  · rintro ⟨depth, -, h⟩; exact ⟨depth, h⟩
  · rintro ⟨depth, h⟩
    have := number_of_mem_generation hwf h
    exact ⟨depth, by omega, h⟩

theorem document_of_mem_members (h : object ∈ registry.members window) :
    object.document = window.document := by
  obtain ⟨depth, h⟩ := (mem_members_iff hwf).mp h
  exact (number_of_mem_generation hwf h).1

theorem wellFormed_of_mem_members (h : object ∈ registry.members window) :
    object.document.WellFormed :=
  document_of_mem_members hwf h ▸ hwf

theorem window_lt_of_mem_members (h : object ∈ registry.members window) :
    window.number < object.number := by
  obtain ⟨depth, h⟩ := (mem_members_iff hwf).mp h
  have := number_of_mem_generation hwf h
  omega

theorem number_lt_size_of_mem_members (h : object ∈ registry.members window) :
    object.number < window.document.size := by
  obtain ⟨depth, h⟩ := (mem_members_iff hwf).mp h
  exact (number_of_mem_generation hwf h).2.2

theorem mem_members_of_mem_kids (hcontainer : container ∈ registry.members window)
    (h : object ∈ registry.kids container) : object ∈ registry.members window := by
  obtain ⟨depth, hdepth⟩ := (mem_members_iff hwf).mp hcontainer
  exact (mem_members_iff hwf).mpr ⟨depth + 1, mem_generation_succ.mpr ⟨container, hdepth, h⟩⟩

/-- A member stands directly in the window, or it is a kid of another member. -/
theorem roots_or_kids_of_mem_members (h : object ∈ registry.members window) :
    object ∈ registry.roots window ∨
      ∃ container ∈ registry.members window, object ∈ registry.kids container := by
  obtain ⟨depth, h⟩ := (mem_members_iff hwf).mp h
  rcases depth with _ | depth
  · exact Or.inl h
  · obtain ⟨container, hcontainer, hkid⟩ := mem_generation_succ.mp h
    exact Or.inr ⟨container, (mem_members_iff hwf).mpr ⟨depth, hcontainer⟩, hkid⟩

theorem not_ignored_of_mem_members (h : object ∈ registry.members window) :
    registry.isIgnored object.base = false := by
  rcases roots_or_kids_of_mem_members hwf h with hroot | ⟨container, -, hkid⟩
  · simpa using (List.mem_filter.mp hroot).2
  · obtain ⟨-, -, -, hvisits⟩ := Registry.mem_kids.mp hkid
    exact Registry.not_ignored_of_visits hvisits

theorem parent_of_mem_roots (h : object ∈ registry.roots window) : object.parent? = some window :=
  Node.parent_of_mem_objects hwf (List.mem_filter.mp h).1

/-- The window is no member. -/
theorem parent_ne_member (hcontainer : container ∈ registry.members window)
    (h : object.parent? = some window) : object.parent? ≠ some container := by
  intro hparent
  have hlt := window_lt_of_mem_members hwf hcontainer
  rw [Option.some.inj (h.symm.trans hparent)] at hlt
  exact Nat.lt_irrefl _ hlt

/-- **No item is a member**: if a member stands directly in another one, the class of that one has
no items. -/
theorem items_eq_none_of_parent (hobject : object ∈ registry.members window)
    (hcontainer : container ∈ registry.members window)
    (hparent : object.parent? = some container) {rules : ContainerClass}
    (hrules : registry.container? container = some rules) : rules.items = none := by
  -- Strong induction: an item that were a member would itself stand in a container with items.
  induction hnumber : object.number using Nat.strongRecOn
    generalizing object container rules with
  | ind number ih =>
    subst hnumber
    rcases roots_or_kids_of_mem_members hwf hobject with hroot | ⟨above, habove, hkid⟩
    · exact absurd hparent (parent_ne_member hwf hcontainer (parent_of_mem_roots hwf hroot))
    · have hwf' := wellFormed_of_mem_members hwf habove
      obtain ⟨rules', hrules', ⟨hitems, habove'⟩ | ⟨hitems, item, hitem, habove'⟩⟩ :=
        parent_of_mem_kids hwf' hkid
      · obtain rfl : container = above := Option.some.inj (hparent.symm.trans habove')
        obtain rfl : rules = rules' := Option.some.inj (hrules.symm.trans hrules')
        exact hitems
      · obtain rfl : container = item := Option.some.inj (hparent.symm.trans hitem)
        have hlt := Node.number_lt_of_parent (wellFormed_of_mem_members hwf hobject) hparent
        exact absurd (ih container.number hlt hcontainer habove habove' hrules' rfl) hitems

/-- A member is a kid of one member only. -/
theorem container_unique {other : Node} (hcontainer : container ∈ registry.members window)
    (hother : other ∈ registry.members window) (h : object ∈ registry.kids container)
    (h' : object ∈ registry.kids other) : container = other := by
  have hobject := mem_members_of_mem_kids hwf hcontainer h
  have hwf₁ := wellFormed_of_mem_members hwf hcontainer
  have hwf₂ := wellFormed_of_mem_members hwf hother
  obtain ⟨rules₁, hrules₁, ⟨hitems₁, hparent₁⟩ | ⟨hitems₁, item₁, hparent₁, habove₁⟩⟩ :=
    parent_of_mem_kids hwf₁ h
  · obtain ⟨rules₂, hrules₂, ⟨hitems₂, hparent₂⟩ | ⟨hitems₂, item₂, hparent₂, habove₂⟩⟩ :=
      parent_of_mem_kids hwf₂ h'
    · exact Option.some.inj (hparent₁.symm.trans hparent₂)
    · obtain rfl : container = item₂ := Option.some.inj (hparent₁.symm.trans hparent₂)
      exact absurd (items_eq_none_of_parent hwf hcontainer hother habove₂ hrules₂) hitems₂
  · obtain ⟨rules₂, hrules₂, ⟨hitems₂, hparent₂⟩ | ⟨hitems₂, item₂, hparent₂, habove₂⟩⟩ :=
      parent_of_mem_kids hwf₂ h'
    · obtain rfl : other = item₁ := Option.some.inj (hparent₂.symm.trans hparent₁)
      exact absurd (items_eq_none_of_parent hwf hother hcontainer habove₁ hrules₁) hitems₁
    · obtain rfl : item₁ = item₂ := Option.some.inj (hparent₁.symm.trans hparent₂)
      exact Option.some.inj (habove₁.symm.trans habove₂)

/-- An object directly in the window is no kid of a member. -/
theorem not_mem_objects_of_mem_kids (hcontainer : container ∈ registry.members window)
    (h : object ∈ registry.kids container) : object ∉ window.objects := by
  intro hobject
  have hparent := Node.parent_of_mem_objects hwf hobject
  have hlt := window_lt_of_mem_members hwf hcontainer
  obtain ⟨rules, -, ⟨-, hparent'⟩ | ⟨-, item, hparent', habove⟩⟩ :=
    parent_of_mem_kids (wellFormed_of_mem_members hwf hcontainer) h
  · obtain rfl : window = container := Option.some.inj (hparent.symm.trans hparent')
    exact Nat.lt_irrefl _ hlt
  · obtain rfl : window = item := Option.some.inj (hparent.symm.trans hparent')
    have := Node.number_lt_of_parent hwf habove
    omega

variable (registry) in
/-- A kid of a member is not in the first level, nor is it a kid of another member. -/
theorem kids_unique : (∀ a b x, InForest registry.kids (registry.roots window) a →
      InForest registry.kids (registry.roots window) b →
      x ∈ registry.kids a → x ∈ registry.kids b → a = b) ∧
    ∀ a x, InForest registry.kids (registry.roots window) a → x ∈ registry.kids a →
      x ∉ registry.roots window := by
  simp only [← mem_members_iff hwf]
  refine ⟨fun a b x ha hb => container_unique hwf ha hb, fun a x ha hx hroot => ?_⟩
  exact not_mem_objects_of_mem_kids hwf ha hx (List.mem_filter.mp hroot).1

/-- **A window lists each of its members once.** -/
theorem nodup_members : (registry.members window).Nodup := by
  obtain ⟨hunique, hroot⟩ := kids_unique registry hwf
  refine nodup_levelOrder (fun a ha => ?_) hunique hroot ?_ _
  · exact nodup_kids (wellFormed_of_mem_members hwf ((mem_members_iff hwf).mpr ha))
  · exact (Node.nodup_objects hwf).filter _

end Members

/-! ### The objects inside a window -/

/-- The node is an `object` element inside the window. -/
structure Node.HoldsObject (window object : Node) : Prop where
  document_eq : object.document = window.document
  tag_eq : object.tag? = some "object"
  inside : window ∈ object.ancestors

section Holds
variable {registry : Registry} {window node object : Node} (hwf : window.document.WellFormed)
include hwf

theorem holdsObject_of_mem_objects (hnode : node = window ∨ window.HoldsObject node)
    (h : object ∈ node.objects) : window.HoldsObject object := by
  have hdocument : node.document = window.document := by
    rcases hnode with rfl | hnode
    · rfl
    · exact hnode.document_eq
  have hwf' : node.document.WellFormed := hdocument ▸ hwf
  have hobject := (Node.document_of_mem_objects hwf' h).trans hdocument
  obtain ⟨hparent, htag⟩ := (Node.mem_objects_iff hwf').mp h
  refine ⟨hobject, htag, ?_⟩
  rw [Node.ancestors_of_parent (hobject ▸ hwf) hparent]
  rcases hnode with rfl | hnode
  · exact List.mem_cons_self
  · exact List.mem_cons_of_mem _ hnode.inside

theorem holdsObject_of_mem_slots {rules : ContainerClass} (hnode : window.HoldsObject node)
    (h : object ∈ rules.slots node) : window.HoldsObject object := by
  unfold ContainerClass.slots at h
  split at h
  · rwa [List.mem_singleton.mp h]
  · exact holdsObject_of_mem_objects hwf (Or.inr hnode) (List.mem_filter.mp h).1

theorem holdsObject_of_mem_members (h : object ∈ registry.members window) :
    window.HoldsObject object := by
  rw [mem_members_iff hwf] at h
  obtain ⟨depth, h⟩ := h
  induction depth generalizing object with
  | zero => exact holdsObject_of_mem_objects hwf (Or.inl rfl) (List.mem_filter.mp h).1
  | succ depth ih =>
    obtain ⟨container, hcontainer, hkid⟩ := mem_generation_succ.mp h
    obtain ⟨rules, -, hobject, -⟩ := Registry.mem_kids.mp hkid
    obtain ⟨slot, hslot, hobject⟩ := List.mem_flatMap.mp hobject
    have hheld := holdsObject_of_mem_slots hwf (ih hcontainer) hslot
    exact holdsObject_of_mem_objects hwf (Or.inr hheld) hobject

end Holds

end GladeGo
