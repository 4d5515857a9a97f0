import GladeGo.Proofs.Document.Shape
import Mathlib.Data.List.Chain

/-! # The open elements

While a document is read, two stacks are kept: the names of the tags that the markup has left open,
which closing tags are checked against, and the elements that the builder has left open. They stay
in step (`Reading.Aligned`): the builder's stack is the chain of elements from the document down to
the innermost open one, and a closing tag that the markup accepts closes the innermost of them. So
what becomes of a text is settled by its events alone, by the tags that are opened at document level
and by where the events end (`Outline.verdict`). -/

namespace GladeGo

open Markup

/-! ### The stack of the builder -/

namespace Builder

/-- The open elements with their tags, innermost last. Below them all is the document itself. -/
def stack (builder : Builder) : List (Nat × String) := (0, "") :: builder.opened.reverse

/-- The stack is the chain of the open elements: its first entry is the document itself, and each
further one is an element that stands in the one before it, with its tag. -/
structure Nested (builder : Builder) : Prop where
  root_kind : builder.document.root.kind? = some .document
  linked : builder.stack.IsChain fun outer inner =>
    builder.document.parentOf inner.1 = some outer.1 ∧
      (builder.document.node inner.1).tag? = some inner.2

theorem nested_start : start.Nested := ⟨rfl, List.isChain_singleton _⟩

theorem stack_cons (document : Document) (innermost : Nat × String)
    (outer : List (Nat × String)) :
    stack ⟨document, innermost :: outer⟩ = stack ⟨document, outer⟩ ++ [innermost] := by
  simp [stack]

theorem getLast?_stack (builder : Builder) :
    ∃ tag, builder.stack.getLast? = some (builder.current, tag) := by
  obtain ⟨document, opened⟩ := builder
  cases opened with
  | nil => exact ⟨"", rfl⟩
  | cons innermost outer => exact ⟨innermost.2, by rw [stack_cons, List.getLast?_concat]; rfl⟩

theorem mem_chain_of_mem_stack {builder : Builder} {entry : Nat × String}
    (h : entry ∈ builder.stack) : entry.1 ∈ builder.chain := by
  unfold stack at h
  unfold chain
  rcases List.mem_cons.mp h with rfl | h
  · simp
  · exact List.mem_append_left _ (List.mem_map_of_mem (List.mem_reverse.mp h))

namespace Nested
variable {builder later : Builder} (h : builder.Nested) (hwf : builder.WellFormed)
include h hwf

/-- A node that is added leaves the open elements where they are. -/
theorem append (kind : NodeKind) :
    Nested { builder with document := builder.document.append builder.current kind } where
  root_kind := (kind_append (hwf.isOpen 0 (by simp [Builder.chain])).1).trans h.root_kind
  linked := by
    refine h.linked.imp_of_mem_imp ?_
    rintro outer inner _ hinner ⟨hparent, htag⟩
    have hlt := (hwf.isOpen inner.1 (mem_chain_of_mem_stack hinner)).1
    dsimp only
    rw [Document.parentOf_append kind hwf.isOpen_current.1, if_neg (Nat.ne_of_lt hlt)]
    refine ⟨hparent, ?_⟩
    rw [Node.tag?, kind_append hlt, ← Node.tag?]
    exact htag

theorem addText (content : String) : (builder.addText content).Nested := by
  unfold Builder.addText
  split
  · exact h
  · rename_i number tag outer hopened
    obtain rfl : builder.current = number := by rw [current, hopened]
    exact h.append hwf _

theorem addElement {tag : String} {attributes : List (String × String)}
    (hlater : builder.addElement tag attributes = .ok later) : later.Nested := by
  obtain ⟨rfl, -⟩ := hwf.addElement hlater
  exact h.append hwf _

theorem openElement {tag : String} {attributes : List (String × String)}
    (hlater : builder.openElement tag attributes = .ok later) : later.Nested := by
  obtain ⟨grown, hadd, hgrown⟩ := bind_eq_ok.mp hlater
  have hnested := h.addElement hwf hadd
  obtain ⟨rfl, -⟩ := hwf.addElement hadd
  cases hgrown
  refine ⟨hnested.root_kind, ?_⟩
  rw [stack_cons]
  refine List.isChain_append.mpr ⟨hnested.linked, List.isChain_singleton _, ?_⟩
  intro outer houter inner hinner
  obtain ⟨last, hlast⟩ := builder.getLast?_stack
  obtain rfl : (builder.current, last) = outer := Option.some.inj (hlast.symm.trans houter)
  obtain rfl : _ = inner := Option.some.inj hinner
  have hparent := hwf.isOpen_current.1
  dsimp only
  rw [Document.size_append, Nat.add_sub_cancel, Document.parentOf_append _ hparent, if_pos rfl,
    Node.tag?, kind_append_last hparent]
  exact ⟨rfl, rfl⟩

theorem closeElement {tag : String} (hlater : builder.closeElement tag = .ok later) :
    later.Nested := by
  obtain ⟨document, opened⟩ := builder
  unfold Builder.closeElement at hlater
  rcases opened with _ | ⟨innermost, outer⟩
  · cases hlater
  · simp only at hlater
    split at hlater
    · cases hlater
      have hlinked := h.linked
      rw [stack_cons] at hlinked
      exact ⟨h.root_kind, hlinked.left_of_append⟩
    · cases hlater

end Nested

end Builder

/-! ### The two stacks -/

theorem name_of_read {content : List Char} {tag : Tag} (h : Tag.read content = .ok tag) :
    tag.name = String.ofList (tagName content) := by
  obtain ⟨attributes, -, h⟩ := bind_eq_ok.mp h
  exact congrArg Tag.name (Except.ok.inj h).symm

namespace Reading

/-- The readings that the reading of a text comes through, one for each event and one at its end. -/
inductive Reached (source : List Char) : Reading → Prop
  | start : Reached source (start source)
  | next {reading later : Reading} (h : Reached source reading) (hrest : reading.rest ≠ [])
      (hnext : reading.next source = .ok later) : Reached source later

/-- The markup and the builder have left the same elements open. -/
structure Aligned (reading : Reading) : Prop where
  shaped : reading.builder.Shaped
  nested : reading.builder.Nested
  names_eq : reading.nesting = reading.builder.opened.map fun entry => entry.2.toList

theorem aligned_start (source : List Char) : (start source).Aligned :=
  ⟨Builder.shaped_start, Builder.nested_start, rfl⟩

namespace Aligned
variable {reading : Reading} (h : reading.Aligned)
include h

theorem isEmpty_opened : reading.builder.opened.isEmpty = reading.nesting.isEmpty := by
  rw [h.names_eq, List.isEmpty_map]

/-- **A closing tag that the markup accepts** closes the innermost open element of the builder. -/
theorem opened_of_closing {name : List Char} {nesting : List (List Char)}
    (hnest : nest reading.nesting (.closing name) = .ok nesting) :
    ∃ number outer, reading.builder.opened = (number, String.ofList name) :: outer ∧
      nesting = outer.map fun entry => entry.2.toList := by
  have hnames := h.names_eq
  cases hopened : reading.builder.opened with
  | nil =>
    rw [hopened] at hnames
    rw [hnames] at hnest
    cases hnest
  | cons innermost outer =>
    obtain ⟨number, tag⟩ := innermost
    rw [hopened] at hnames
    rw [hnames] at hnest
    simp only [nest, List.map_cons] at hnest
    split at hnest
    · rename_i hname
      cases hnest
      exact ⟨number, outer, by rw [hname, String.ofList_toList], rfl⟩
    · cases hnest

end Aligned

end Reading

/-! ### Elements at document level -/

namespace Builder

/-- The tags of the elements directly in the document, in order. -/
def tops (builder : Builder) : List String := builder.document.root.elements.map Node.tagOrEmpty

theorem isSome_rootElement? (builder : Builder) :
    builder.document.rootElement?.isSome = !builder.tops.isEmpty := by
  rw [Document.rootElement?, tops, List.isEmpty_map]
  cases builder.document.root.elements <;> rfl

theorem tops_eq_filterMap (builder : Builder) : builder.tops =
    (builder.document.childrenOf 0).filterMap fun number =>
      (builder.document.node number).tag? := by
  rw [tops, Document.root, elements_node]
  induction builder.document.childrenOf 0 with
  | nil => rfl
  | cons number numbers ih =>
    rw [List.map_cons, List.filter_cons, List.filterMap_cons, ← ih, Node.isElement]
    cases htag : (builder.document.node number).tag? with
    | none => rfl
    | some tag => simp [Node.tagOrEmpty, htag]

namespace Shaped
variable {builder : Builder} (h : builder.Shaped)
include h

/-- At document level only elements are added. -/
theorem tops_append (kind : NodeKind) :
    tops { builder with document := builder.document.append builder.current kind } =
      builder.tops ++ if builder.opened = [] then
        match kind with
        | .element tag _ => [tag]
        | _ => []
      else [] := by
  have hparent := h.wellFormed.isOpen_current.1
  have hold : ∀ number ∈ builder.document.childrenOf 0,
      ((builder.document.append builder.current kind).node number).tag? =
        (builder.document.node number).tag? := by
    intro number hnumber
    have hlt := (Document.lt_of_mem_childrenOf h.wellFormed.document hnumber).2
    rw [Node.tag?, kind_append hlt, ← Node.tag?]
  rw [tops_eq_filterMap, tops_eq_filterMap, Document.childrenOf_append kind hparent,
    List.filterMap_append, List.filterMap_congr hold]
  congr 1
  by_cases hopened : builder.opened = []
  · have hcurrent : builder.current = 0 := by rw [current, hopened]
    rw [if_pos hopened, if_pos hcurrent.symm, List.filterMap_cons, Node.tag?,
      kind_append_last hparent]
    cases kind <;> rfl
  · have hpos := h.document.pos_of_isElement (h.isElement_current hopened)
    rw [if_neg hopened, if_neg (Nat.ne_of_lt hpos)]
    rfl

theorem tops_addText (content : String) : (builder.addText content).tops = builder.tops := by
  unfold Builder.addText
  split
  · rfl
  · rename_i number tag outer hopened
    obtain rfl : builder.current = number := by rw [current, hopened]
    rw [h.tops_append, if_neg (by rw [hopened]; exact List.cons_ne_nil _ _), List.append_nil]

end Shaped

theorem opened_addText (builder : Builder) (content : String) :
    (builder.addText content).opened = builder.opened := by
  unfold addText
  split <;> rfl

end Builder

/-! ### What an event does -/

/-- The tag of the element that an event opens. -/
def Markup.Event.opens? : Event → Option String
  | .opening content _ => some (String.ofList (tagName content))
  | _ => none

/-- What is wrong inside an event: in the attributes of a tag, or in a text if it is in an element.
-/
def Markup.Event.fault? (inside : Bool) : Event → Option Fault
  | .text written =>
    match inside, decode written with
    | true, .error fault => some (.reference fault)
    | _, _ => none
  | .opening content _ =>
    match Tag.read content with
    | .error fault => some fault
    | .ok _ => none
  | _ => none

/-- The tag of the element that an event opens at document level. -/
def topOf (nesting : List (List Char)) (event : Event) : List String :=
  if nesting.isEmpty then event.opens?.toList else []

namespace Reading

/-- What the builder makes of an event that is not at fault itself: it goes on with the same
elements open as the markup, unless a second element is opened at document level. -/
inductive Builds (source : List Char) (reading : Reading) (event : Event)
    (nesting : List (List Char)) (rest : List Char) : Prop
  | ok {later : Builder} (hbuild : build source reading.builder event rest = .ok later)
      (haligned : Aligned ⟨later, nesting, rest⟩)
      (htops : later.tops = reading.builder.tops ++ topOf reading.nesting event)
  | secondRoot {tag : String} (htop : topOf reading.nesting event = [tag])
      (htops : reading.builder.tops ≠ [])
      (hbuild : build source reading.builder event rest = .error (.secondRoot tag))

namespace Aligned
variable {source rest : List Char} {reading : Reading} {event : Event}
  {nesting : List (List Char)} (h : reading.Aligned)
include h

theorem addText (content : String) :
    Aligned ⟨reading.builder.addText content, reading.nesting, rest⟩ where
  shaped := h.shaped.addText content
  nested := h.nested.addText h.shaped.wellFormed content
  names_eq := by
    dsimp only
    rw [Builder.opened_addText]
    exact h.names_eq

theorem builds_opening {content : List Char} {isEmpty : Bool} {tag : Tag}
    (hread : Tag.read content = .ok tag)
    (hnest : nest reading.nesting (.opening content isEmpty) = .ok nesting) :
    Builds source reading (.opening content isEmpty) nesting rest := by
  have hkeys := nodup_keys_of_read hread
  have htop : topOf reading.nesting (.opening content isEmpty) =
      if reading.builder.opened = [] then [tag.name] else [] := by
    rw [topOf, ← h.isEmpty_opened, name_of_read hread]
    simp only [List.isEmpty_iff, Event.opens?, Option.toList_some]
  cases hsecond : reading.builder.opened.isEmpty &&
      reading.builder.document.rootElement?.isSome with
  | true =>
    have hadd : reading.builder.addElement tag.name tag.attributes =
        .error (.secondRoot tag.name) := by
      rw [Builder.addElement, if_pos hsecond]
    rw [reading.builder.isSome_rootElement?, Bool.and_eq_true, List.isEmpty_iff] at hsecond
    refine .secondRoot (htop.trans (if_pos hsecond.1)) (by simpa using hsecond.2) ?_
    simp only [build, hread, Builder.openElement, hadd]
    split <;> rfl
  | false =>
    have hadd : reading.builder.addElement tag.name tag.attributes = .ok { reading.builder with
        document := reading.builder.document.append reading.builder.current
          (.element tag.name tag.attributes) } := by
      rw [Builder.addElement, if_neg (by simp [hsecond])]
    have htops := h.shaped.tops_append (.element tag.name tag.attributes)
    rw [← htop] at htops
    cases isEmpty with
    | true =>
      cases hnest
      refine .ok ?_ ⟨h.shaped.addElement hkeys hadd, h.nested.addElement h.shaped.wellFormed hadd,
        h.names_eq⟩ htops
      simp only [build, hread, if_true, hadd]
    | false =>
      cases hnest
      obtain ⟨later, hopen, hdocument, hopened⟩ : ∃ later,
          reading.builder.openElement tag.name tag.attributes = .ok later ∧
          later.document = reading.builder.document.append reading.builder.current
            (.element tag.name tag.attributes) ∧
          later.opened.map Prod.snd = tag.name :: reading.builder.opened.map Prod.snd := by
        rw [Builder.openElement, hadd]
        exact ⟨_, rfl, rfl, rfl⟩
      have hbuild : build source reading.builder (.opening content false) rest = .ok later := by
        simp only [build, hread, Bool.false_eq_true, if_false, hopen]
      refine .ok hbuild ⟨h.shaped.openElement hkeys hopen,
        h.nested.openElement h.shaped.wellFormed hopen, ?_⟩ ?_
      · have hnames := congrArg (List.map String.toList) hopened
        rw [List.map_cons, name_of_read hread, String.toList_ofList, List.map_map,
          List.map_map] at hnames
        dsimp only
        rw [h.names_eq]
        exact hnames.symm
      · rw [← htops, Builder.tops, Builder.tops, hdocument]

theorem builds (hnest : nest reading.nesting event = .ok nesting)
    (hfault : event.fault? (!reading.nesting.isEmpty) = none) :
    Builds source reading event nesting rest := by
  cases event with
  | text written =>
    cases hnest
    cases hempty : reading.nesting.isEmpty with
    | true =>
      have hbuild : build source reading.builder (.text written) rest = .ok reading.builder := by
        simp [build, h.isEmpty_opened, hempty]
      exact .ok hbuild ⟨h.shaped, h.nested, h.names_eq⟩ (by simp [topOf, Event.opens?])
    | false =>
      simp only [hempty, Event.fault?, Bool.not_false] at hfault
      cases hdecode : decode written with
      | error fault => rw [hdecode] at hfault; cases hfault
      | ok content =>
        refine .ok ?_ (h.addText (String.ofList content)) ?_
        · simp [build, h.isEmpty_opened, hempty, hdecode]
        · simp [topOf, Event.opens?, h.shaped.tops_addText]
  | cdata content =>
    cases hnest
    exact .ok rfl (h.addText _) (by simp [topOf, Event.opens?, h.shaped.tops_addText])
  | opening content isEmpty =>
    cases hread : Tag.read content with
    | error fault => simp [Event.fault?, hread] at hfault
    | ok tag => exact h.builds_opening hread hnest
  | closing name =>
    obtain ⟨number, outer, hopened, rfl⟩ := h.opened_of_closing hnest
    have hclose : reading.builder.closeElement (String.ofList name) =
        .ok { reading.builder with opened := outer } := by
      simp only [Builder.closeElement, hopened, if_true]
    exact .ok hclose ⟨h.shaped.closeElement hclose,
      h.nested.closeElement h.shaped.wellFormed hclose, rfl⟩ (by simp [topOf, Event.opens?]; rfl)
  | skipped =>
    cases hnest
    exact .ok rfl ⟨h.shaped, h.nested, h.names_eq⟩ (by simp [topOf, Event.opens?])

end Aligned

end Reading

/-! ### Outlines -/

/-- The event that `cs` begins with, the names of the open elements after it, and what follows it;
or what is wrong and where in `source`. -/
def nextEvent (source : List Char) (nesting : List (List Char)) (cs : List Char) :
    Except (Nat × Fault) (Event × List (List Char) × List Char) :=
  match readEvent cs with
  | .error ⟨fault, suffix⟩ => .error (Text.offsetOf source suffix, fault)
  | .ok (event, rest) =>
    match nest nesting event with
    | .error fault => .error (Text.offsetOf source cs, fault)
    | .ok later =>
      match event.fault? (!nesting.isEmpty) with
      | some fault => .error (Text.offsetOf source rest, fault)
      | none => .ok (event, later, rest)

theorem nextEvent_ok {source cs rest : List Char} {nesting later : List (List Char)} {event : Event}
    (h : nextEvent source nesting cs = .ok (event, later, rest)) :
    readEvent cs = .ok (event, rest) ∧ nest nesting event = .ok later ∧
      event.fault? (!nesting.isEmpty) = none := by
  unfold nextEvent at h
  split at h
  · cases h
  · rename_i hread
    split at h
    · cases h
    · rename_i hnest
      split at h
      · cases h
      · rename_i hfault
        cases h
        exact ⟨hread, hnest, hfault⟩

/-- What the events of a text tell of its elements. -/
structure Outline where
  /-- The tags of the elements that are opened at document level, in order. -/
  tops : List String
  /-- The first fault in the markup with its position, or the names of the elements that are open at
  the end, innermost first. -/
  stop : Except (Nat × Fault) (List (List Char))

/-- The outline of what is left of a text, where elements of the given names are open. -/
def outline (source : List Char) (nesting : List (List Char)) (cs : List Char) : Outline :=
  if _hcs : cs = [] then ⟨[], .ok nesting⟩
  else
    match _hnext : nextEvent source nesting cs with
    | .error stop => ⟨[], .error stop⟩
    | .ok (event, later, rest) =>
      let following := outline source later rest
      ⟨topOf nesting event ++ following.tops, following.stop⟩
termination_by cs.length
decreasing_by exact readEvent_length _hcs (nextEvent_ok _hnext).1

/-- The outline of a whole text. -/
def Outline.ofText (text : String) : Outline :=
  let source := dropByteOrderMark text.toList
  outline source [] source

/-- What becomes of a text with the given outline. -/
def Outline.verdict (outline : Outline) : Except DocumentFault Unit :=
  match outline.tops[1]?, outline.stop with
  | some second, _ => .error (.secondRoot second)
  | none, .error (position, fault) => .error (.markup position fault)
  | none, .ok nesting =>
    match nesting.getLast? with
    | some outermost => .error (.unclosed (String.ofList outermost))
    | none => if outline.tops = [] then .error .noRoot else .ok ()

theorem outline_nil (source : List Char) (nesting : List (List Char)) :
    outline source nesting [] = ⟨[], .ok nesting⟩ := by
  rw [outline, dif_pos rfl]

section Outline
variable {source cs rest : List Char} {nesting : List (List Char)} (hcs : cs ≠ [])
include hcs

theorem outline_of_error {stop : Nat × Fault} (h : nextEvent source nesting cs = .error stop) :
    outline source nesting cs = ⟨[], .error stop⟩ := by
  rw [outline, dif_neg hcs]
  split
  · rename_i h'
    cases h.symm.trans h'
    rfl
  · rename_i h'
    cases h.symm.trans h'

theorem outline_of_event {event : Event} {later : List (List Char)}
    (h : nextEvent source nesting cs = .ok (event, later, rest)) :
    outline source nesting cs =
      ⟨topOf nesting event ++ (outline source later rest).tops,
        (outline source later rest).stop⟩ := by
  rw [outline, dif_neg hcs]
  split
  · rename_i h'
    cases h.symm.trans h'
  · rename_i h'
    cases h.symm.trans h'
    rfl

end Outline

namespace Reading.Aligned
variable {source : List Char} {reading : Reading} (h : reading.Aligned)
include h

theorem build_of_fault {event : Event} {rest : List Char} {fault : Fault}
    (hfault : event.fault? (!reading.nesting.isEmpty) = some fault) :
    build source reading.builder event rest = .error (placed source fault rest) := by
  rw [← h.isEmpty_opened] at hfault
  cases event with
  | text written =>
    cases hempty : reading.builder.opened.isEmpty with
    | true => simp [Event.fault?, hempty] at hfault
    | false =>
      cases hdecode : decode written with
      | ok content => simp [Event.fault?, hdecode] at hfault
      | error cause =>
        simp only [Event.fault?, hempty, hdecode, Bool.not_false, Option.some.injEq] at hfault
        simp [build, hempty, hdecode, hfault]
  | opening content isEmpty =>
    cases hread : Tag.read content with
    | ok tag => simp [Event.fault?, hread] at hfault
    | error cause =>
      simp only [Event.fault?, hread, Option.some.injEq] at hfault
      simp [build, hread, hfault]
  | cdata content => cases hfault
  | closing name => cases hfault
  | skipped => cases hfault

theorem next_of_error {position : Nat} {fault : Fault}
    (hnext : nextEvent source reading.nesting reading.rest = .error (position, fault)) :
    reading.next source = .error (.markup position fault) := by
  unfold nextEvent at hnext
  unfold next
  revert hnext
  cases readEvent reading.rest with
  | error misread =>
    intro hnext
    cases hnext
    rfl
  | ok found =>
    obtain ⟨event, rest⟩ := found
    dsimp only
    cases nest reading.nesting event with
    | error misnested =>
      intro hnext
      cases hnext
      rfl
    | ok nesting =>
      dsimp only
      cases hfault : event.fault? (!reading.nesting.isEmpty) with
      | some fault =>
        intro hnext
        cases hnext
        simp only [h.build_of_fault hfault]
        rfl
      | none =>
        intro hnext
        cases hnext

theorem length_tops : reading.builder.tops.length ≤ 1 := by
  rw [Builder.tops_eq_filterMap]
  exact (List.length_filterMap_le _ _).trans h.shaped.document.root_unique

theorem finish_verdict : reading.builder.finish.map (fun _ => ()) =
    Outline.verdict ⟨reading.builder.tops, .ok reading.nesting⟩ := by
  have hsecond : reading.builder.tops[1]? = none := List.getElem?_eq_none h.length_tops
  have hroot := reading.builder.isSome_rootElement?
  simp only [Builder.finish, Outline.verdict, hsecond, h.names_eq, List.getLast?_map]
  cases reading.builder.opened.getLast? with
  | some outermost => simp [Except.map]
  | none =>
    rw [hroot]
    cases reading.builder.tops <;> rfl

omit h in
/-- **What becomes of a reading** is settled by the outline of what is left. -/
theorem run_verdict (h : reading.Aligned) : (reading.run source).map (fun _ => ()) =
    Outline.verdict
      ⟨reading.builder.tops ++ (outline source reading.nesting reading.rest).tops,
        (outline source reading.nesting reading.rest).stop⟩ := by
  induction hlength : reading.rest.length using Nat.strongRecOn generalizing reading with
  | ind length ih =>
  subst hlength
  by_cases hrest : reading.rest = []
  · rw [run, dif_pos hrest, hrest, outline_nil, List.append_nil]
    exact h.finish_verdict
  cases hnext : nextEvent source reading.nesting reading.rest with
  | error stop =>
    have hsecond : reading.builder.tops[1]? = none := List.getElem?_eq_none h.length_tops
    rw [run_eq_of_next_error hrest (h.next_of_error hnext), outline_of_error hrest hnext,
      List.append_nil, Outline.verdict]
    simp only [hsecond]
    rfl
  | ok found =>
    obtain ⟨event, nesting, rest⟩ := found
    obtain ⟨hread, hnest, hfault⟩ := nextEvent_ok hnext
    rw [outline_of_event hrest hnext]
    have hbuilds : Builds source reading event nesting rest := h.builds hnest hfault
    cases hbuilds with
    | @ok later hbuild haligned htops =>
      have hlater : reading.next source = .ok ⟨later, nesting, rest⟩ := by
        simp only [next, hread, hnest, hbuild]
      rw [run_eq_of_next hrest hlater, ih _ (next_length hrest hlater) haligned rfl, htops,
        List.append_assoc]
    | @secondRoot tag htop htops hbuild =>
      have hfault : reading.next source = .error (.secondRoot tag) := by
        simp only [next, hread, hnest, hbuild]
      obtain ⟨first, hfirst⟩ := List.length_eq_one_iff.mp
        (Nat.le_antisymm h.length_tops (List.length_pos_of_ne_nil htops))
      rw [run_eq_of_next_error hrest hfault, htop, hfirst]
      rfl

omit h in
/-- **An event keeps the two stacks in step.** -/
theorem next (h : reading.Aligned) {later : Reading} (hnext : reading.next source = .ok later) :
    later.Aligned := by
  unfold Reading.next at hnext
  split at hnext
  · cases hnext
  · rename_i event rest hread
    split at hnext
    · cases hnext
    · rename_i nesting hnest
      have hfault : event.fault? (!reading.nesting.isEmpty) = none := by
        by_contra hne
        obtain ⟨fault, hfault⟩ := Option.ne_none_iff_exists'.mp hne
        rw [h.build_of_fault hfault] at hnext
        cases hnext
      have hbuilds : Builds source reading event nesting rest := h.builds hnest hfault
      cases hbuilds with
      | ok hbuild haligned _ =>
        rw [hbuild] at hnext
        cases hnext
        exact haligned
      | secondRoot _ _ hbuild =>
        rw [hbuild] at hnext
        cases hnext

end Reading.Aligned

theorem Reading.Reached.aligned {source : List Char} {reading : Reading}
    (h : Reached source reading) : reading.Aligned := by
  induction h with
  | start => exact aligned_start source
  | next _ _ hnext ih => exact ih.next hnext

/-! ### Texts -/

theorem Outline.verdict_eq_ok_iff {outline : Outline} :
    outline.verdict = .ok () ↔ outline.stop = .ok [] ∧ outline.tops.length = 1 := by
  obtain ⟨tops, stop⟩ := outline
  unfold verdict
  rcases tops with _ | ⟨first, _ | ⟨second, tops⟩⟩
  · cases stop with
    | error stop => simp
    | ok nesting => cases hlast : nesting.getLast? <;> simp [hlast]
  · cases stop with
    | error stop => simp
    | ok nesting => rcases List.eq_nil_or_concat nesting with rfl | ⟨inner, outermost, rfl⟩ <;> simp
  · simp

theorem Outline.verdict_ne_closing (outline : Outline) : (∀ tag,
    outline.verdict ≠ .error (.strayClosing tag)) ∧ ∀ expected found,
      outline.verdict ≠ .error (.wrongClosing expected found) := by
  unfold verdict
  split
  · simp
  · simp
  · split
    · simp
    · split <;> simp

/-- **The stack of open elements** is at every event the chain from the document down to the
innermost open element, in step with the names that closing tags are checked against. So a closing
tag that the markup accepts closes the element on top, and the builder refuses none. A text is a
document exactly if its events go on to the end, where all elements are closed, and one element is
opened at document level; otherwise its fault is that of its outline. -/
theorem openElements_of_parse (text : String) :
    (∀ reading, Reading.Reached (dropByteOrderMark text.toList) reading →
      reading.builder.Nested ∧
      (reading.nesting = reading.builder.opened.map fun entry => entry.2.toList) ∧
      ∀ name rest nesting, readEvent reading.rest = .ok (.closing name, rest) →
        nest reading.nesting (.closing name) = .ok nesting →
        ∃ number outer, reading.builder.opened = (number, String.ofList name) :: outer) ∧
    (∀ tag, Document.parse text ≠ .error (.strayClosing tag)) ∧
    (∀ expected found, Document.parse text ≠ .error (.wrongClosing expected found)) ∧
    ((∃ document, Document.parse text = .ok document) ↔
      (Outline.ofText text).stop = .ok [] ∧ (Outline.ofText text).tops.length = 1) ∧
    ∀ fault, Document.parse text = .error fault ↔ (Outline.ofText text).verdict = .error fault := by
  have hverdict : (Document.parse text).map (fun _ => ()) = (Outline.ofText text).verdict :=
    (Reading.aligned_start (dropByteOrderMark text.toList)).run_verdict
  have herror : ∀ fault, Document.parse text = .error fault ↔
      (Outline.ofText text).verdict = .error fault := by
    intro fault
    rw [← hverdict]
    cases Document.parse text <;> simp [Except.map]
  obtain ⟨hstray, hwrong⟩ := (Outline.ofText text).verdict_ne_closing
  refine ⟨fun reading hreached => ⟨hreached.aligned.nested, hreached.aligned.names_eq, ?_⟩,
    fun tag h => hstray tag ((herror _).mp h),
    fun expected found h => hwrong expected found ((herror _).mp h), ?_, herror⟩
  · intro name rest nesting _ hnest
    obtain ⟨number, outer, hopened, -⟩ := hreached.aligned.opened_of_closing hnest
    exact ⟨number, outer, hopened⟩
  · rw [← Outline.verdict_eq_ok_iff, ← hverdict]
    cases Document.parse text <;> simp [Except.map]

theorem openElements_of_parse_pair : ∃ reading,
    Reading.Reached (dropByteOrderMark "<a></a>".toList) reading ∧ reading.builder.Nested ∧
    (∃ number outer, reading.builder.opened = (number, "a") :: outer) ∧
    (∃ document, Document.parse "<a></a>" = .ok document) ∧
    Document.parse "<a></a><b>" = .error (.secondRoot "b") := by
  have hevent : (((Reading.start (dropByteOrderMark "<a></a>".toList)).next
      (dropByteOrderMark "<a></a>".toList)).toOption.map fun later =>
        (readEvent later.rest, nest later.nesting (.closing ['a']))) =
      some (.ok (.closing ['a'], []), .ok []) := by
    decide +kernel
  obtain ⟨later, hlater, hevent⟩ := Option.map_eq_some_iff.mp hevent
  rw [Prod.mk.injEq] at hevent
  have hreached := Reading.Reached.next .start (by decide +kernel) (eq_ok_of_toOption hlater)
  obtain ⟨hstack, -, -, hok, -⟩ := openElements_of_parse "<a></a>"
  obtain ⟨hnested, -, hclosing⟩ := hstack later hreached
  obtain ⟨-, -, -, -, herror⟩ := openElements_of_parse "<a></a><b>"
  refine ⟨later, hreached, hnested, hclosing _ _ _ hevent.1 hevent.2, hok.mpr ?_,
    (herror _).mpr ?_⟩
  · exact ⟨by decide +kernel, by decide +kernel⟩
  · decide +kernel

end GladeGo
