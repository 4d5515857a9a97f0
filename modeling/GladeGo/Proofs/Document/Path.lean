import GladeGo.Document.Path
import GladeGo.Proofs.Document.Parse
import GladeGo.Proofs.Document.Preorder
import GladeGo.Proofs.Document.Tree
import GladeGo.Proofs.Files.Path
import GladeGo.Proofs.Run
import Mathlib.Data.List.Induction

/-! # Following paths

What a path leads to from several nodes is what it leads to from each of them, one after the other
(`foldl_step_eq_flatMap`): a path may be followed piece by piece, and its segments that are empty or
`.` may be left out.

A path that first goes up and then down goes up to one ancestor, or nowhere. On its way down, the
nodes that it has reached stand side by side: all that is inside the first comes before the second
(`Precedes`). A step down keeps this, since children stand inside their parents; so what is reached
is in document order. -/

namespace GladeGo

open FilePath (pieces pieces_intercalate toList_slash not_mem_of_mem_splitOn)

/-! ### Segments -/

/-- The segments of a path that move along it: those that are neither empty nor `.`. -/
def movingSegments (path : String) : List String :=
  ((path.toList.splitOn '/').map String.ofList).filter fun segment => segment ≠ "" ∧ segment ≠ "."

/-- The step that a moving segment stands for. -/
def movingStep (segment : String) : PathStep := if segment = ".." then .up else .down segment

theorem movingStep_ne_stay (segment : String) : movingStep segment ≠ .stay := by
  unfold movingStep
  split <;> simp

theorem pathSteps_append (p q : String) :
    pathSteps (p ++ "/" ++ q) = pathSteps p ++ pathSteps q := by
  rw [pathSteps, String.toList_append, String.toList_append, toList_slash, List.append_assoc,
    List.singleton_append, List.splitOn_append_cons_self, List.filterMap_append]
  rfl

theorem ofSegment_of_moving {segment : String} (hempty : segment ≠ "") (hdot : segment ≠ ".") :
    PathStep.ofSegment segment.toList = some (movingStep segment) := by
  have hne : ∀ {s : String}, segment ≠ s → segment.toList ≠ s.toList :=
    fun h heq => h (String.toList_injective heq)
  unfold PathStep.ofSegment
  split
  · rename_i heq
    exact absurd heq (hne hempty)
  · rename_i heq
    exact absurd (heq.trans (by decide)) (hne hdot)
  · rename_i heq
    have hup : segment = ".." := String.toList_injective (heq.trans (by decide))
    rw [movingStep, if_pos hup]
  · rename_i hup
    have hsegment : segment ≠ ".." := fun h => hup (by rw [h]; decide)
    rw [movingStep, if_neg hsegment, String.ofList_toList]

/-- The steps of a path, those left out that stay in place. -/
theorem filter_pathSteps (path : String) :
    (pathSteps path).filter (· ≠ .stay) = (movingSegments path).map movingStep := by
  unfold pathSteps movingSegments
  induction path.toList.splitOn '/' with
  | nil => rfl
  | cons cs css ih =>
    obtain ⟨segment, rfl⟩ : ∃ segment : String, segment.toList = cs :=
      ⟨String.ofList cs, String.toList_ofList⟩
    rw [List.map_cons, String.ofList_toList]
    by_cases hempty : segment = ""
    · subst hempty
      exact ih
    by_cases hdot : segment = "."
    · subst hdot
      rw [List.filterMap_cons_some (show PathStep.ofSegment ".".toList = some .stay by decide),
        List.filter_cons_of_neg (by simp), List.filter_cons_of_neg (by simp)]
      exact ih
    · rw [List.filterMap_cons_some (ofSegment_of_moving hempty hdot),
        List.filter_cons_of_pos (by simpa using movingStep_ne_stay segment),
        List.filter_cons_of_pos (by simpa using ⟨hempty, hdot⟩), List.map_cons, ih]

/-- A path may as well be written without the segments that do not move. -/
theorem movingSegments_intercalate (path : String) :
    movingSegments ("/".intercalate (movingSegments path)) = movingSegments path := by
  by_cases hnil : movingSegments path = []
  · rw [hnil]
    decide
  have hslash : ∀ segment ∈ movingSegments path, '/' ∉ segment.toList := by
    intro segment hsegment
    obtain ⟨cs, hcs, rfl⟩ := List.mem_map.mp (List.mem_filter.mp hsegment).1
    rw [String.toList_ofList]
    exact not_mem_of_mem_splitOn hcs
  change (pieces _).filter _ = _
  rw [pieces_intercalate hnil hslash, movingSegments, List.filter_filter]
  simp

namespace Node

/-! ### Steps -/

section Steps
variable {node : Node}

/-- **Steps lead from several nodes to what they lead to from each of them.** -/
theorem foldl_step_eq_flatMap (steps : List PathStep) (nodes : List Node) :
    steps.foldl step nodes = nodes.flatMap fun node => steps.foldl step [node] := by
  induction steps generalizing nodes with
  | nil => exact (List.flatMap_singleton' nodes).symm
  | cons first steps ih =>
    have hfirst : step nodes first = nodes.flatMap fun node => step [node] first := by
      cases first with
      | stay => exact (List.flatMap_singleton' nodes).symm
      | up =>
        rw [step, List.filterMap_eq_flatMap_toList]
        rfl
      | down tag => simp [step]
    rw [List.foldl_cons, ih, hfirst, List.flatMap_assoc]
    exact List.flatMap_congr fun node _ => (ih (step [node] first)).symm

theorem follow_append (node : Node) (p q : String) :
    node.follow (p ++ "/" ++ q) = (node.follow p).flatMap fun reached => reached.follow q := by
  rw [follow, pathSteps_append, List.foldl_append, foldl_step_eq_flatMap]
  rfl

theorem foldl_step_filter (steps : List PathStep) (nodes : List Node) :
    (steps.filter (· ≠ .stay)).foldl step nodes = steps.foldl step nodes := by
  induction steps generalizing nodes with
  | nil => rfl
  | cons first steps ih =>
    cases first with
    | stay => exact ih nodes
    | up => exact ih _
    | down tag => exact ih _

/-- What a path leads to, told by the segments that move. -/
theorem follow_eq (node : Node) (path : String) :
    node.follow path = ((movingSegments path).map movingStep).foldl step [node] := by
  rw [follow, ← foldl_step_filter, filter_pathSteps]

end Steps

/-! ### Up -/

/-- The ancestor of a node that is some steps above it. -/
def ancestor? : Nat → Node → Option Node
  | 0, node => some node
  | steps + 1, node => node.parent?.bind (ancestor? steps)

theorem document_of_ancestor {steps : Nat} {node above : Node}
    (h : node.ancestor? steps = some above) : above.document = node.document := by
  induction steps generalizing node with
  | zero => rw [Option.some.inj h]
  | succ steps ih =>
    obtain ⟨parent, hparent, habove⟩ := Option.bind_eq_some_iff.mp h
    rw [ih habove, document_of_parent hparent]

/-- Steps up lead to one ancestor, or nowhere. -/
theorem foldl_step_up (ups : Nat) (node : Node) :
    (List.replicate ups PathStep.up).foldl step [node] = (node.ancestor? ups).toList := by
  induction ups generalizing node with
  | zero => rfl
  | succ ups ih =>
    rw [List.replicate_succ, List.foldl_cons, ancestor?]
    cases hparent : node.parent? with
    | none =>
      have hnone : step [node] .up = [] := by simp [step, hparent]
      rw [hnone, foldl_step_eq_flatMap]
      rfl
    | some parent =>
      have hsome : step [node] .up = [parent] := by simp [step, hparent]
      rw [hsome]
      exact ih parent

/-! ### Down -/

theorem mem_elementsTagged_iff {node child : Node} {tag : String}
    (hwf : node.document.WellFormed) : child ∈ node.elementsTagged tag ↔
      child.parent? = some node ∧ child.tag? = some tag := by
  simp [elementsTagged, mem_children_iff hwf]

/-- A node is reached from `outer` by steps down to elements with the given tags: its own tag is the
last of them, that of its parent the last but one, and so on up to `outer`. -/
structure ReachedBy (outer : Node) (tags : List String) (node : Node) : Prop where
  ancestor : node.ancestor? tags.length = some outer
  tag : ∀ i tag, tags.reverse[i]? = some tag →
    ∃ element, node.ancestor? i = some element ∧ element.tag? = some tag

theorem reachedBy_concat {outer node : Node} {tags : List String} {last : String} :
    ReachedBy outer (tags ++ [last]) node ↔
      ∃ parent, ReachedBy outer tags parent ∧ node.parent? = some parent ∧
        node.tag? = some last := by
  constructor
  · rintro ⟨hancestor, htag⟩
    rw [List.length_append, List.length_singleton] at hancestor
    obtain ⟨parent, hparent, hancestor⟩ := Option.bind_eq_some_iff.mp hancestor
    obtain ⟨element, helement, hlast⟩ := htag 0 last (by simp)
    obtain rfl := Option.some.inj helement
    refine ⟨parent, ⟨hancestor, fun i tag hi => ?_⟩, hparent, hlast⟩
    obtain ⟨element, helement, htag⟩ := htag (i + 1) tag (by simpa using hi)
    rw [ancestor?, hparent] at helement
    exact ⟨element, helement, htag⟩
  · rintro ⟨parent, ⟨hancestor, htag⟩, hparent, hlast⟩
    refine ⟨?_, fun i tag hi => ?_⟩
    · rw [List.length_append, List.length_singleton, ancestor?, hparent]
      exact hancestor
    · rw [List.reverse_append, List.reverse_singleton, List.singleton_append] at hi
      cases i with
      | zero => exact ⟨node, rfl, Option.some.inj hi ▸ hlast⟩
      | succ i =>
        obtain ⟨element, helement, htag⟩ := htag i tag hi
        exact ⟨element, by rw [ancestor?, hparent]; exact helement, htag⟩

/-- **What steps down lead to.** -/
theorem mem_foldl_step_down_iff {outer node : Node} (hwf : outer.document.WellFormed)
    {tags : List String} :
    node ∈ (tags.map PathStep.down).foldl step [outer] ↔ ReachedBy outer tags node := by
  induction tags using List.reverseRecOn generalizing node with
  | nil =>
    rw [List.map_nil, List.foldl_nil, List.mem_singleton]
    exact ⟨fun h => ⟨congrArg some h, by simp⟩, fun h => Option.some.inj h.ancestor⟩
  | append_singleton tags last ih =>
    rw [List.map_append, List.foldl_append, reachedBy_concat]
    simp only [List.map_singleton, List.foldl_cons, List.foldl_nil, step, List.mem_flatMap, ih]
    refine exists_congr fun parent => and_congr_right fun hparent => ?_
    have hdocument := document_of_ancestor hparent.ancestor
    exact mem_elementsTagged_iff (hdocument ▸ hwf)

/-! ### Document order -/

/-- All that is inside the first node, and the node itself, comes before the second node. -/
def Precedes (first second : Node) : Prop :=
  ∀ number ∈ first.document.preorder first.number, number < second.number

theorem Precedes.lt {first second : Node} (hwf : first.document.WellFormed)
    (h : Precedes first second) : first.number < second.number :=
  h _ ((Document.mem_preorder_iff hwf).mpr (Or.inl rfl))

/-- Siblings in document order precede one another. -/
theorem precedes_of_siblings {node first second : Node} (hwf : node.document.WellFormed)
    (hfirst : first.parent? = some node) (hsecond : second.parent? = some node)
    (hlt : first.number < second.number) : Precedes first second := by
  obtain ⟨hdocument, hfirst⟩ := parent?_eq_some_iff.mp hfirst
  obtain ⟨hdocument', hsecond⟩ := parent?_eq_some_iff.mp hsecond
  rw [← hdocument] at hfirst
  rw [← hdocument'] at hsecond
  intro number hnumber
  rw [← hdocument] at hnumber
  exact Document.lt_of_mem_preorder hwf hsecond (hwf.parent_lt _ _ hfirst) hlt hnumber

/-- Where one node precedes another, so do their children. -/
theorem Precedes.children {first second child child' : Node} (hwf : first.document.WellFormed)
    (hwf' : second.document.WellFormed) (h : Precedes first second)
    (hchild : child.parent? = some first) (hchild' : child'.parent? = some second) :
    Precedes child child' := by
  obtain ⟨hdocument, hparent⟩ := parent?_eq_some_iff.mp hchild
  rw [← hdocument] at hparent
  intro number hnumber
  rw [← hdocument] at hnumber
  have hinside : number ∈ first.document.preorder first.number :=
    (Document.mem_preorder_iff hwf).mpr
      (Or.inr ⟨child.number, (hwf.mem_childrenOf _ _).mpr hparent, hnumber⟩)
  have hwfChild' : child'.document.WellFormed := document_of_parent hchild' ▸ hwf'
  exact Nat.lt_trans (h number hinside) (number_lt_of_parent hwfChild' hchild')

/-- **A step down keeps nodes side by side.** -/
theorem precedes_step_down {nodes : List Node} (tag : String)
    (hwf : ∀ node ∈ nodes, node.document.WellFormed) (h : nodes.Pairwise Precedes) :
    (step nodes (.down tag)).Pairwise Precedes := by
  refine List.pairwise_flatMap.mpr ⟨fun node hnode => ?_, ?_⟩
  · refine ((children_ordered (hwf node hnode)).filter _).imp_of_mem fun {a b} ha hb hlt => ?_
    have hparent := (mem_elementsTagged_iff (hwf node hnode)).mp ha
    have hparent' := (mem_elementsTagged_iff (hwf node hnode)).mp hb
    exact precedes_of_siblings (hwf node hnode) hparent.1 hparent'.1 hlt
  · refine h.imp_of_mem fun {a b} ha hb hab child hchild child' hchild' => ?_
    have hparent := (mem_elementsTagged_iff (hwf a ha)).mp hchild
    have hparent' := (mem_elementsTagged_iff (hwf b hb)).mp hchild'
    exact hab.children (hwf a ha) (hwf b hb) hparent.1 hparent'.1

theorem precedes_foldl_step_down {outer : Node} (hwf : outer.document.WellFormed)
    (tags : List String) :
    ((tags.map PathStep.down).foldl step [outer]).Pairwise Precedes := by
  induction tags using List.reverseRecOn with
  | nil => exact List.pairwise_singleton _ _
  | append_singleton tags last ih =>
    rw [List.map_append, List.foldl_append]
    refine precedes_step_down last (fun node hnode => ?_) ih
    have hreached := (mem_foldl_step_down_iff hwf).mp hnode
    exact document_of_ancestor hreached.ancestor ▸ hwf

/-- **What two steps down lead to** is in document order: elements of one tag, in elements of
another. -/
theorem lt_flatMap_elementsTagged {outer : Node} (hwf : outer.document.WellFormed)
    (tag inner : String) :
    ((outer.elementsTagged tag).flatMap fun element => element.elementsTagged inner).Pairwise
      fun a b => a.number < b.number := by
  have hsteps : ([tag, inner].map PathStep.down).foldl step [outer] =
      (outer.elementsTagged tag).flatMap fun element => element.elementsTagged inner := by
    simp [step]
  rw [← hsteps]
  refine (precedes_foldl_step_down hwf [tag, inner]).imp_of_mem fun {a b} ha _ hab => ?_
  have hreached := (mem_foldl_step_down_iff hwf).mp ha
  exact hab.lt (document_of_ancestor hreached.ancestor ▸ hwf)

end Node

/-- **What the paths of a parsed document lead to.** A path that is put together of two leads to
what the second leads to from each of the nodes that the first leads to, in that order, and segments
that are empty or `.` change nothing. A path that goes up some steps and then only down leads to nodes in
document order, none of them twice: to those that have, with the nodes around them, the tags of the
path up to the ancestor at which it turns. -/
theorem follow_of_parse {text : String} {document : Document}
    (h : Document.parse text = .ok document) (number : Nat) :
    (∀ p q, (document.node number).follow (p ++ "/" ++ q) =
      ((document.node number).follow p).flatMap fun reached => reached.follow q) ∧
    (∀ path, (document.node number).follow ("/".intercalate (movingSegments path)) =
      (document.node number).follow path) ∧
    ∀ path ups tags, movingSegments path = List.replicate ups ".." ++ tags → ".." ∉ tags →
      ((document.node number).follow path).Pairwise (fun a b => a.number < b.number) ∧
      ((document.node number).follow path).Nodup ∧
      ∀ node, node ∈ (document.node number).follow path ↔
        ∃ outer, (document.node number).ancestor? ups = some outer ∧
          Node.ReachedBy outer tags node := by
  have hwf := Document.wellFormed_of_parse h
  refine ⟨Node.follow_append _, fun path => ?_, fun path ups tags hpath htags => ?_⟩
  · rw [Node.follow_eq, movingSegments_intercalate, ← Node.follow_eq]
  have hups : (List.replicate ups "..").map movingStep = List.replicate ups .up := by
    rw [List.map_replicate]
    rfl
  have hdowns : tags.map movingStep = tags.map .down := by
    refine List.map_congr_left fun tag htag => if_neg ?_
    rintro rfl
    exact htags htag
  rw [Node.follow_eq, hpath, List.map_append, hups, hdowns, List.foldl_append, Node.foldl_step_up]
  cases hturn : (document.node number).ancestor? ups with
  | none =>
    rw [Option.toList_none, Node.foldl_step_eq_flatMap]
    exact ⟨.nil, .nil, fun node => by simp⟩
  | some outer =>
    have houter : outer.document.WellFormed := Node.document_of_ancestor hturn ▸ hwf
    have hordered : ((tags.map PathStep.down).foldl Node.step [outer]).Pairwise
        fun a b => a.number < b.number := by
      refine (Node.precedes_foldl_step_down houter tags).imp_of_mem fun {a b} ha _ hab => ?_
      have hreached := (Node.mem_foldl_step_down_iff houter).mp ha
      exact hab.lt (Node.document_of_ancestor hreached.ancestor ▸ houter)
    rw [Option.toList_some]
    refine ⟨hordered, hordered.imp fun hlt heq => ?_, fun node => ?_⟩
    · exact Nat.lt_irrefl _ (heq ▸ hlt)
    rw [Node.mem_foldl_step_down_iff houter]
    exact ⟨fun hreached => ⟨outer, rfl, hreached⟩, fun ⟨_, heq, hreached⟩ =>
      Option.some.inj heq ▸ hreached⟩

/-- The document of an element with two branches. -/
def branchedDocument : Document :=
  ((((((Document.empty.append 0 (.element "a" [])).append 1 (.element "b" [])).append 2
    (.element "c" [])).append 1 (.element "b" [])).append 4 (.element "c" [])).append 4
      (.element "d" []))

theorem follow_of_parse_branchedDocument :
    Document.parse "<a><b><c/></b><b><c/><d/></b></a>" = .ok branchedDocument ∧
    movingSegments "../.././b//c" = List.replicate 2 ".." ++ ["b", "c"] ∧
    ".." ∉ ["b", "c"] ∧
    (branchedDocument.node 6).follow "../.././b//c" =
      [branchedDocument.node 3, branchedDocument.node 5] ∧
    [branchedDocument.node 3, branchedDocument.node 5].Nodup ∧
    Node.ReachedBy (branchedDocument.node 1) ["b", "c"] (branchedDocument.node 5) := by
  have h : Document.parse "<a><b><c/></b><b><c/><d/></b></a>" = .ok branchedDocument :=
    eq_ok_of_toOption (by decide +kernel)
  have hsegments : movingSegments "../.././b//c" = List.replicate 2 ".." ++ ["b", "c"] := by
    decide +kernel
  have hreached : (branchedDocument.node 6).follow "../.././b//c" =
      [branchedDocument.node 3, branchedDocument.node 5] := by decide +kernel
  have htags : ".." ∉ ["b", "c"] := by decide
  obtain ⟨-, hnodup, hmem⟩ := (follow_of_parse h 6).2.2 _ 2 _ hsegments htags
  rw [hreached] at hnodup hmem
  obtain ⟨outer, houter, hlast⟩ := (hmem (branchedDocument.node 5)).mp (by simp)
  have hturn : (branchedDocument.node 6).ancestor? 2 = some (branchedDocument.node 1) := by
    decide +kernel
  obtain rfl : branchedDocument.node 1 = outer := Option.some.inj (hturn.symm.trans houter)
  exact ⟨h, hsegments, htags, hreached, hnodup, hlast⟩

end GladeGo
