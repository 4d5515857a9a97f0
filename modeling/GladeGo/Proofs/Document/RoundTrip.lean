import GladeGo.Proofs.Document.Growth
import GladeGo.Proofs.Document.Parse
import GladeGo.Proofs.Markup.Construct
import GladeGo.Proofs.Run

/-! # Documents read back

A text that writes a tree is parsed to a document with that tree (`parse_of_writesDocument`). The
reading of each part of such a text adds to the open element what the part writes (`Reads`). Pieces
of text that stand next to each other are one event, so the content of an element is read together
with the text before it that has not been read yet (`Readable`). -/

namespace GladeGo

open Markup

/-! ### One event -/

namespace Reading

theorem run_eq_of_event {source cs rest : List Char} {builder later : Builder}
    {nesting nesting' : List (List Char)} {event : Event} (hne : cs ≠ [])
    (hread : readEvent cs = .ok (event, rest)) (hnest : nest nesting event = .ok nesting')
    (hbuild : build source builder event rest = .ok later) :
    run source ⟨builder, nesting, cs⟩ = run source ⟨later, nesting', rest⟩ := by
  refine run_eq_of_next hne ?_
  simp only [next, hread, hnest, hbuild]

end Reading

/-! ### What a part adds -/

/-- The reading of `cs` adds a text and child elements to the open element, and leaves the same
elements open. -/
def Reads (source : List Char) (builder : Builder) (cs rest : List Char) (text : String)
    (trees : List ElementTree) : Prop :=
  ∃ later : Builder, later.WellFormed ∧ later.opened = builder.opened ∧
    Adds builder.document later.document builder.current text trees ∧
    ∀ nesting, Reading.run source ⟨builder, nesting, cs ++ rest⟩ =
      Reading.run source ⟨later, nesting, rest⟩

theorem Builder.current_eq_of_opened {builder later : Builder}
    (h : later.opened = builder.opened) : later.current = builder.current := by
  rw [current, current, h]

/-- Two parts, one after the other. -/
theorem reads_append {source : List Char} {builder : Builder} {cs cs' rest : List Char}
    {text text' : String} {trees trees' : List ElementTree}
    (h : Reads source builder cs (cs' ++ rest) text trees)
    (h' : ∀ later : Builder, later.WellFormed → later.opened = builder.opened →
      Reads source later cs' rest text' trees') :
    Reads source builder (cs ++ cs') rest (text ++ text') (trees ++ trees') := by
  obtain ⟨later, hlater, hopened, hadds, hrun⟩ := h
  obtain ⟨latest, hlatest, hopened', hadds', hrun'⟩ := h' later hlater hopened
  rw [Builder.current_eq_of_opened hopened] at hadds'
  refine ⟨latest, hlatest, hopened'.trans hopened, hadds.trans hadds', fun nesting => ?_⟩
  rw [List.append_assoc, hrun, hrun']

section Reads
variable {source : List Char} {builder : Builder} (hwf : builder.WellFormed) (rest : List Char)
include hwf

theorem reads_nil : Reads source builder [] rest "" [] :=
  ⟨builder, hwf, rfl, .refl _ _, fun _ => rfl⟩

theorem reads_skipped {markup : List Char} (h : Skipped markup) :
    Reads source builder markup rest "" [] := by
  refine ⟨builder, hwf, rfl, .refl _ _, fun nesting => ?_⟩
  have hne : markup ++ rest ≠ [] := by cases h <;> simp
  exact Reading.run_eq_of_event hne (readEvent_skipped h rest) rfl rfl

variable (hopened : builder.opened ≠ [])
include hopened

theorem addText_of_opened (content : String) : (builder.addText content).WellFormed ∧
    (builder.addText content).opened = builder.opened ∧
    Adds builder.document (builder.addText content).document builder.current content [] := by
  have hlater : builder.addText content =
      { builder with document := builder.document.append builder.current (.text content) } := by
    obtain ⟨document, opened⟩ := builder
    cases opened with
    | nil => exact absurd rfl hopened
    | cons innermost opened => rfl
  rw [hlater]
  exact ⟨hwf.append _, rfl, adds_text hwf.document hwf.isOpen_current content⟩

theorem reads_cdata {piece : List Char} (h : ¬ "]]>".toList <:+: piece) :
    Reads source builder ("<![CDATA[".toList ++ piece ++ "]]>".toList) rest (String.ofList piece)
      [] := by
  obtain ⟨hlater, hsame, hadds⟩ := addText_of_opened hwf hopened (String.ofList piece)
  refine ⟨_, hlater, hsame, hadds, fun nesting => ?_⟩
  exact Reading.run_eq_of_event (by simp) (readEvent_cdata h rest) rfl rfl

/-- Text up to the next markup, if there is any. -/
theorem reads_text {plain written : List Char} (h : Escapes isTextChar plain written) :
    Reads source builder written ('<' :: rest) (String.ofList plain) [] := by
  by_cases hne : written = []
  · subst hne
    cases h
    exact reads_nil hwf _
  · obtain ⟨hlater, hsame, hadds⟩ := addText_of_opened hwf hopened (String.ofList plain)
    have hmarkup : '<' ∉ written :=
      not_mem_of_escapes h (by decide) (by decide) (by decide) (by decide)
    refine ⟨_, hlater, hsame, hadds, fun nesting => ?_⟩
    refine Reading.run_eq_of_event (by simp) (readEvent_text hne hmarkup rest) rfl ?_
    have hdecode : decode written = .ok plain := decode_of_escapes (by decide) h
    have hinside : builder.opened.isEmpty = false := by simpa using hopened
    simp only [Reading.build, hinside, hdecode]
    rfl

end Reads

/-! ### Elements -/

theorem addElement_eq {builder : Builder} (tag : String) (attributes : List (String × String))
    (hroot : builder.opened = [] → builder.document.rootElement? = none) :
    builder.addElement tag attributes = .ok { builder with
      document := builder.document.append builder.current (.element tag attributes) } := by
  unfold Builder.addElement
  cases hopened : builder.opened with
  | nil => simp [hroot hopened]
  | cons innermost opened => rfl

theorem openElement_eq {builder : Builder} (tag : String) (attributes : List (String × String))
    (hroot : builder.opened = [] → builder.document.rootElement? = none) :
    builder.openElement tag attributes =
      .ok ⟨builder.document.append builder.current (.element tag attributes),
        (builder.document.size, tag) :: builder.opened⟩ := by
  rw [Builder.openElement, addElement_eq tag attributes hroot, ok_bind]
  simp

section Elements
variable {source : List Char} {builder : Builder} (hwf : builder.WellFormed)
  (hroot : builder.opened = [] → builder.document.rootElement? = none) (rest : List Char)
  {tag : String} {attributes : List (String × String)} {opening : List Char} (htag : IsName tag)
  (hattributes : WritesAttributes attributes opening)
  (hkeys : ∀ key ∈ attributes.map Prod.fst, IsName key)
  (hnodup : (attributes.map Prod.fst).Nodup)
include hwf hroot htag hattributes hkeys hnodup

theorem reads_empty : Reads source builder ('<' :: tag.toList ++ opening ++ "/>".toList) rest ""
    [.element tag attributes "" []] := by
  have hadd := addElement_eq tag attributes hroot
  obtain ⟨-, hlater⟩ := hwf.addElement hadd
  have hadds := adds_element hwf.document hwf.isOpen_current hlater.document (.refl _ _)
  refine ⟨_, hlater, rfl, hadds, fun nesting => ?_⟩
  have hread := readEvent_empty htag rest hattributes hkeys
  have hbuild : Reading.build source builder (.opening (tag.toList ++ opening) true) rest =
      builder.addElement tag attributes := by
    simp only [Reading.build, read_of_writesAttributes htag hattributes hkeys hnodup, if_true]
  have hrun := @Reading.run_eq_of_event source _ rest builder _ nesting nesting _
    (List.cons_ne_nil _ _) hread rfl (hbuild.trans hadd)
  simpa using hrun

theorem reads_paired {text : String} {children : List ElementTree} {inner gap : List Char}
    (hgap : Spaces gap)
    (hinner : ∀ (later : Builder) (rest : List Char), later.WellFormed → later.opened ≠ [] →
      Reads source later inner ('<' :: rest) text children) :
    Reads source builder
      ('<' :: tag.toList ++ opening ++ '>' :: inner ++ "</".toList ++ tag.toList ++ gap ++ ['>'])
      rest "" [.element tag attributes text children] := by
  have hopen := openElement_eq tag attributes hroot
  obtain ⟨later, hlater, hopened, hadds, hrun⟩ := hinner _
    ('/' :: (tag.toList ++ gap ++ '>' :: rest)) (hwf.openElement hopen) (List.cons_ne_nil _ _)
  have hclose : later.closeElement tag = .ok { later with opened := builder.opened } := by
    simp only [Builder.closeElement, hopened, if_true]
  refine ⟨_, hlater.closeElement hclose, rfl,
    adds_element hwf.document hwf.isOpen_current hlater.document hadds, fun nesting => ?_⟩
  -- The tag is read, then what is in the element, and then the closing tag.
  have hnest : nest nesting (.opening (tag.toList ++ opening) false) =
      .ok (tag.toList :: nesting) := by
    rw [nest, (tagName_of_isName htag (head_of_writesAttributes hattributes)).1]
  have hbuild : ∀ rest, Reading.build source builder (.opening (tag.toList ++ opening) false) rest =
      builder.openElement tag attributes := by
    intro rest
    simp only [Reading.build, read_of_writesAttributes htag hattributes hkeys hnodup]
    rfl
  have hopening := Reading.run_eq_of_event (List.cons_ne_nil _ _)
    (readEvent_opening htag (inner ++ '<' :: '/' :: (tag.toList ++ gap ++ '>' :: rest)) hattributes
      hkeys) hnest ((hbuild _).trans hopen)
  have hclosing := @Reading.run_eq_of_event source _ rest later _ (tag.toList :: nesting) nesting _
    (List.cons_ne_nil _ _) (readEvent_closing htag rest hgap) (by simp [nest])
    (by rw [Reading.build, String.ofList_toList]; exact hclose)
  have htext : '<' :: tag.toList ++ opening ++ '>' :: inner ++ "</".toList ++ tag.toList ++ gap ++
      ['>'] ++ rest = '<' :: (tag.toList ++ opening ++ '>' ::
        (inner ++ '<' :: '/' :: (tag.toList ++ gap ++ '>' :: rest))) := by simp
  rw [htext, hopening, hrun, hclosing]

end Elements

/-! ### Parts -/

/-- What the reading of a part does wherever the part stands. The content of an element is read
together with the text before it. -/
def Readable : Part → List Char → Prop
  | .element tree, cs => tree.WellNamed → ∀ source (builder : Builder) rest, builder.WellFormed →
      (builder.opened = [] → builder.document.rootElement? = none) →
      Reads source builder cs rest "" [tree]
  | .content text children, cs => (∀ child ∈ children, child.WellNamed) →
      ∀ source (builder : Builder) plain written rest, builder.WellFormed → builder.opened ≠ [] →
      Escapes isTextChar plain written →
      Reads source builder (written ++ cs) ('<' :: rest) (String.ofList (plain ++ text)) children

theorem Escapes.append {bare : Char → Bool} {plain plain' written written' : List Char}
    (h : Escapes bare plain written) (h' : Escapes bare plain' written') :
    Escapes bare (plain ++ plain') (written ++ written') := by
  induction h with
  | nil => exact h'
  | bare hc _ ih => exact .bare hc ih
  | entity hname _ ih =>
    have hall := Escapes.entity hname ih
    simpa using hall

theorem Skipped.head {markup : List Char} (h : Skipped markup) : ∃ cs, markup = '<' :: cs := by
  cases h with
  | comment => exact ⟨_, rfl⟩
  | instruction => exact ⟨_, rfl⟩

theorem Writes.head {tree : ElementTree} {cs : List Char} (h : Writes (.element tree) cs) :
    ∃ rest, cs = '<' :: rest := by
  cases h with
  | paired => exact ⟨_, rfl⟩
  | empty => exact ⟨_, rfl⟩

/-- Content without text before it. -/
theorem Readable.reads {text cs : List Char} {children : List ElementTree}
    (h : Readable (.content text children) cs) (hchildren : ∀ child ∈ children, child.WellNamed)
    {source : List Char} {builder : Builder} (hwf : builder.WellFormed)
    (hopened : builder.opened ≠ []) (rest : List Char) :
    Reads source builder cs ('<' :: rest) (String.ofList text) children := by
  have hreads := h hchildren source builder [] [] rest hwf hopened .nil
  rwa [List.nil_append, List.nil_append] at hreads

/-- Text, a piece of another kind, and the content that follows it. -/
theorem Readable.reads_piece {text cs : List Char} {children trees : List ElementTree}
    (h : Readable (.content text children) cs) (hchildren : ∀ child ∈ children, child.WellNamed)
    {source : List Char} {builder : Builder} (hwf : builder.WellFormed)
    (hopened : builder.opened ≠ []) {plain written piece said rest : List Char}
    (hbefore : Escapes isTextChar plain written) (hhead : ∃ head, piece = '<' :: head)
    (hpiece : ∀ later : Builder, later.WellFormed → later.opened ≠ [] →
      Reads source later piece (cs ++ '<' :: rest) (String.ofList said) trees) :
    Reads source builder (written ++ (piece ++ cs)) ('<' :: rest)
      (String.ofList (plain ++ (said ++ text))) (trees ++ children) := by
  have htext : Reads source builder written (piece ++ cs ++ '<' :: rest) (String.ofList plain)
      [] := by
    obtain ⟨head, rfl⟩ := hhead
    exact reads_text hwf _ hopened hbefore
  have hrest : ∀ later : Builder, later.WellFormed → later.opened = builder.opened →
      Reads source later (piece ++ cs) ('<' :: rest) (String.ofList said ++ String.ofList text)
        (trees ++ children) := by
    intro later hlater hsame
    have hinside : later.opened ≠ [] := hsame ▸ hopened
    refine reads_append (hpiece later hlater hinside) fun latest hlatest hsame' => ?_
    exact h.reads hchildren hlatest (hsame' ▸ hinside) rest
  rw [String.ofList_append, String.ofList_append]
  change Reads _ _ _ _ _ ([] ++ (trees ++ children))
  exact reads_append htext hrest

/-- **Whatever writes a part is read as that part.** -/
theorem readable_of_writes {part : Part} {cs : List Char} (h : Writes part cs) :
    Readable part cs := by
  induction h with
  | paired hattributes _ hgap ih =>
    rintro ⟨htag, hkeys, hnodup, hchildren⟩ source builder rest hwf hroot
    refine reads_paired hwf hroot rest htag hattributes hkeys hnodup hgap fun later rest hlater
      hopened => ?_
    have hinner : Reads source later _ _ _ _ := Readable.reads ih hchildren hlater hopened rest
    rwa [String.ofList_toList] at hinner
  | empty hattributes =>
    rintro ⟨htag, hkeys, hnodup, -⟩ source builder rest hwf hroot
    exact reads_empty hwf hroot rest htag hattributes hkeys hnodup
  | nil =>
    intro _ source builder plain written rest hwf hopened hbefore
    rw [List.append_nil, List.append_nil]
    exact reads_text hwf rest hopened hbefore
  | text hpiece _ ih =>
    intro hchildren source builder plain written rest hwf hopened hbefore
    have hrest := ih hchildren source builder _ _ rest hwf hopened (hbefore.append hpiece)
    rwa [List.append_assoc, List.append_assoc] at hrest
  | cdata hpiece _ ih =>
    intro hchildren source builder plain written rest hwf hopened hbefore
    exact Readable.reads_piece ih hchildren hwf hopened hbefore ⟨_, rfl⟩
      fun later hlater hinside => reads_cdata hlater _ hinside hpiece
  | skipped hmarkup _ ih =>
    intro hchildren source builder plain written rest hwf hopened hbefore
    exact Readable.reads_piece ih hchildren hwf hopened hbefore hmarkup.head
      fun later hlater _ => reads_skipped hlater _ hmarkup
  | child htree _ ihtree ih =>
    intro hchildren source builder plain written rest hwf hopened hbefore
    obtain ⟨hnamed, hchildren⟩ := List.forall_mem_cons.mp hchildren
    exact Readable.reads_piece ih hchildren hwf hopened hbefore htree.head
      fun later hlater hinside => ihtree hnamed source later _ hlater fun h => absurd h hinside

/-! ### Documents -/

section Around
variable {source : List Char} {builder : Builder} (hopened : builder.opened = [])
  (nesting : List (List Char))
include hopened

/-- Outside the root element, text is passed over. -/
theorem run_dropWhile (cs : List Char) : Reading.run source ⟨builder, nesting, cs⟩ =
    Reading.run source ⟨builder, nesting, cs.dropWhile (· != '<')⟩ := by
  have hbuild : ∀ written rest,
      Reading.build source builder (.text written) rest = .ok builder := by
    intro written rest
    simp [Reading.build, hopened]
  by_cases hplain : ∀ c rest, cs = c :: rest → c = '<'
  · cases cs with
    | nil => rfl
    | cons c rest =>
      obtain rfl := hplain c rest rfl
      rfl
  · obtain ⟨c, rest, rfl, hc⟩ : ∃ c rest, cs = c :: rest ∧ c ≠ '<' := by simpa using hplain
    have hread : readEvent (c :: rest) = .ok (.text ((c :: rest).takeWhile (· != '<')),
        (c :: rest).dropWhile (· != '<')) := by
      unfold readEvent
      split
      · rename_i heq
        exact absurd (List.cons.inj heq).1 hc
      · rfl
    exact Reading.run_eq_of_event (List.cons_ne_nil _ _) hread rfl (hbuild _ _)

theorem run_around {cs : List Char} (h : Around cs) (rest : List Char) :
    Reading.run source ⟨builder, nesting, cs ++ rest⟩ =
      Reading.run source ⟨builder, nesting, rest⟩ := by
  induction h with
  | nil => rfl
  | @space c cs hc _ ih =>
    have hplain : (c != '<') = true := by
      simp only [bne_iff_ne, ne_eq]
      rintro rfl
      exact absurd hc (by decide)
    rw [← ih, run_dropWhile hopened, run_dropWhile hopened nesting (cs ++ rest), List.cons_append,
      List.dropWhile_cons_of_pos (by simpa using hplain)]
  | @skipped markup cs hmarkup _ ih =>
    have hne : markup ++ (cs ++ rest) ≠ [] := by cases hmarkup <;> simp
    rw [List.append_assoc, ← ih]
    exact Reading.run_eq_of_event hne (readEvent_skipped hmarkup _) rfl rfl

end Around

/-- No writing begins with a byte order mark. -/
theorem dropByteOrderMark_of_writes {before written : List Char} {tree : ElementTree}
    (hbefore : Around before) (hwritten : Writes (.element tree) written) (rest : List Char) :
    dropByteOrderMark (before ++ written ++ rest) = before ++ written ++ rest := by
  have hhead : ∃ c cs, before ++ written ++ rest = c :: cs ∧ (c = '<' ∨ isSpace c = true) := by
    cases hbefore with
    | nil =>
      obtain ⟨cs, rfl⟩ := hwritten.head
      exact ⟨'<', _, rfl, Or.inl rfl⟩
    | space hc _ => exact ⟨_, _, rfl, Or.inr hc⟩
    | skipped hmarkup _ =>
      obtain ⟨cs, rfl⟩ := hmarkup.head
      exact ⟨'<', _, rfl, Or.inl rfl⟩
  obtain ⟨c, cs, hcons, hc⟩ := hhead
  rw [hcons]
  unfold dropByteOrderMark
  split
  · rename_i heq
    obtain rfl := (List.cons.inj heq).1
    rcases hc with hc | hc <;> exact absurd hc (by decide)
  · rfl

/-- **A writing of a tree is parsed to a document with that tree**, and there is a writing of every
tree whose tags and keys are names and whose keys are distinct. -/
theorem parse_of_writesDocument {tree : ElementTree} (hnamed : tree.WellNamed) :
    (∃ text, WritesDocument tree text) ∧
    ∀ text, WritesDocument tree text → ∃ document root, Document.parse text = .ok document ∧
      document.root.elements = [root] ∧ root.tree = tree := by
  refine ⟨exists_writesDocument hnamed, fun text h => ?_⟩
  obtain ⟨before, written, rest, hbefore, hwritten, hrest, htext⟩ := h
  obtain ⟨later, hlater, hopened, hadds, hrun⟩ := readable_of_writes hwritten hnamed text.toList
    .start rest Builder.wellFormed_start fun _ => rfl
  have helements : later.document.root.elements.map Node.tree = [tree] := hadds.elements_eq
  obtain ⟨root, hroot, htree⟩ := List.map_eq_singleton_iff.mp helements
  have hfinish : later.finish = .ok later.document := by
    have hnone : later.opened.getLast? = none := by rw [hopened]; rfl
    have hsome : later.document.rootElement?.isSome = true := by
      rw [Document.rootElement?, hroot]
      rfl
    simp only [Builder.finish, hnone, hsome, if_true]
  refine ⟨later.document, root, ?_, hroot, htree⟩
  calc Document.parse text
      = Reading.run text.toList ⟨.start, [], before ++ written ++ rest⟩ := by
        rw [Document.parse, htext, dropByteOrderMark_of_writes hbefore hwritten]
        rfl
    _ = Reading.run text.toList ⟨.start, [], written ++ rest⟩ := by
        rw [List.append_assoc, run_around rfl [] hbefore]
    _ = Reading.run text.toList ⟨later, [], rest⟩ := hrun []
    _ = Reading.run text.toList ⟨later, [], []⟩ := by
        have hafter := @run_around text.toList later hopened [] rest hrest []
        rwa [List.append_nil] at hafter
    _ = .ok later.document := by
        rw [Reading.run, dif_pos rfl, hfinish]

/-- A tree with markup in its texts. -/
def sampleTree : ElementTree := .element "a" [("k", "\">")] "x<&" [.element "b" [] "" []]

/-- A writing of `sampleTree` that uses each of the ways to write a text. -/
def sampleWriting : String :=
  "<?xml version='1.0'?>\n<a k='&quot;>'>x&lt;<![CDATA[&]]><b/><!-- y --></a >"

theorem wellNamed_sampleTree : sampleTree.WellNamed := by
  have hname : ∀ {name : String} {c : Char}, name.toList = [c] → isNameChar c = true →
      IsName name := by
    intro name c hname hc
    exact ⟨by simp [hname], by simpa [hname] using hc⟩
  have ha : IsName "a" := hname rfl rfl
  have hb : IsName "b" := hname rfl rfl
  have hk : IsName "k" := hname rfl rfl
  refine .element ha (by simpa using hk) (by simp) ?_
  simpa using ElementTree.WellNamed.element hb (by simp) (by simp) (by simp)

theorem writesDocument_sampleTree : WritesDocument sampleTree sampleWriting := by
  have hdeclaration : Around ("<?".toList ++ "xml version='1.0'".toList ++ "?>".toList ++ ['\n']) :=
    .skipped (.instruction (by decide +kernel)) (.space rfl .nil)
  have hvalue : Escapes (isValueChar '\'') "\">".toList ('&' :: "quot".toList ++ ';' :: ['>']) :=
    .entity (by decide +kernel) (.bare rfl .nil)
  have hattributes : WritesAttributes [("k", "\">")] ([' '] ++ "k".toList ++ [] ++ '=' :: [] ++
      '\'' :: ('&' :: "quot".toList ++ ';' :: ['>']) ++ '\'' :: []) :=
    .cons (spaces_singleton rfl) (by simp) spaces_nil spaces_nil (Or.inr rfl) hvalue
      (.nil spaces_nil)
  have hcomment : Writes (.content [] []) ("<!--".toList ++ " y ".toList ++ "-->".toList ++ []) :=
    .skipped (.comment (by decide +kernel)) .nil
  have hchild : Writes (.content [] [.element "b" [] "" []]) _ :=
    .child (.empty (.nil spaces_nil)) hcomment
  have hcdata : Writes (.content (['&'] ++ []) _) _ := .cdata (by decide +kernel) hchild
  have htext : Escapes isTextChar ['x', '<'] ('x' :: '&' :: "lt".toList ++ ';' :: []) :=
    .bare rfl (.entity (by decide +kernel) .nil)
  have hinner : Writes (.content "x<&".toList [.element "b" [] "" []]) _ := .text htext hcdata
  have helement : Writes (.element sampleTree) _ :=
    .paired hattributes hinner (spaces_singleton (c := ' ') rfl)
  exact ⟨_, _, _, hdeclaration, helement, .nil, by decide +kernel⟩

theorem parse_of_writesDocument_sampleTree : ∃ document root,
    Document.parse sampleWriting = .ok document ∧ document.root.elements = [root] ∧
      root.tree = sampleTree :=
  (parse_of_writesDocument wellNamed_sampleTree).2 sampleWriting writesDocument_sampleTree

end GladeGo
