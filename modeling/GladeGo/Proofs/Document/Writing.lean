import GladeGo.Markup.Tag
import GladeGo.Proofs.Document.ElementTree

/-! # Ways to write a document

The texts that write an element tree (`WritesDocument`). Values stand in either kind of quotes and
may use the predefined entities. A text may be cut into pieces, each with entities or as a CDATA
section, and comments and processing instructions may stand between any two pieces. An element with
nothing in it has one tag or two. Around the root element there may be white space, comments and
instructions, among them an XML declaration. Every tree whose names can be written has such a text
(`exists_writesDocument`). -/

namespace GladeGo

open Markup

/-! ### Names, spaces and entities -/

/-- The characters, apart from white space, that mean something in a tag. -/
def tagMarks : List Char := ['=', '/', '<', '>', '"', '\'', '!', '?', '&']

/-- Whether `c` may stand in a name. The characters of XML names are among these. -/
def isNameChar (c : Char) : Bool := !isSpace c && !tagMarks.contains c

/-- A name of an element or of an attribute. -/
structure IsName (name : String) : Prop where
  ne_nil : name.toList ≠ []
  chars : ∀ c ∈ name.toList, isNameChar c = true

/-- White space, or nothing. -/
def Spaces (cs : List Char) : Prop := ∀ c ∈ cs, isSpace c = true

theorem spaces_nil : Spaces [] := fun _ h => nomatch h

theorem spaces_singleton {c : Char} (hc : isSpace c = true) : Spaces [c] := by
  simpa [Spaces] using hc

/-- `written` stands for `plain`: some characters are written as they are, if `bare` allows it, and
others as predefined entities. -/
inductive Escapes (bare : Char → Bool) : List Char → List Char → Prop
  | nil : Escapes bare [] []
  | bare {c : Char} {plain written : List Char} (hc : bare c = true)
      (rest : Escapes bare plain written) : Escapes bare (c :: plain) (c :: written)
  | entity {name : List Char} {c : Char} {plain written : List Char}
      (hname : predefinedEntity name = some c) (rest : Escapes bare plain written) :
      Escapes bare (c :: plain) ('&' :: name ++ ';' :: written)

/-- The characters that may stand as they are in a text. -/
def isTextChar (c : Char) : Bool := c != '&' && c != '<'

/-- The characters that may stand as they are in a value between the given quotes. -/
def isValueChar (quote c : Char) : Bool := c != '&' && c != quote

/-! ### Tags -/

/-- What may stand in a tag behind the name: attributes, each after a gap, and spaces. -/
inductive WritesAttributes : List (String × String) → List Char → Prop
  | nil {gap : List Char} (hgap : Spaces gap) : WritesAttributes [] gap
  | cons {key value : String} {attributes : List (String × String)} {quote : Char}
      {gap before after written rest : List Char} (hgap : Spaces gap) (hne : gap ≠ [])
      (hbefore : Spaces before) (hafter : Spaces after) (hquote : quote = '"' ∨ quote = '\'')
      (hvalue : Escapes (isValueChar quote) value.toList written)
      (hrest : WritesAttributes attributes rest) :
      WritesAttributes ((key, value) :: attributes)
        (gap ++ key.toList ++ before ++ '=' :: after ++ quote :: written ++ quote :: rest)

/-! ### Content -/

/-- Comments and processing instructions. A comment holds no `--`, and an instruction no `?>`, also
not one that begins with its own question mark. -/
inductive Skipped : List Char → Prop
  | comment {content : List Char} (h : ¬ ['-', '-'] <:+: content) :
      Skipped ("<!--".toList ++ content ++ "-->".toList)
  | instruction {content : List Char} (h : ¬ ['?', '>'] <:+: '?' :: content) :
      Skipped ("<?".toList ++ content ++ "?>".toList)

/-- A part of a document. -/
inductive Part where
  | element (tree : ElementTree)
  /-- What stands in an element: its text, joined, and its child elements. -/
  | content (text : List Char) (children : List ElementTree)

/-- `cs` writes a part of a document. -/
inductive Writes : Part → List Char → Prop
  | paired {tag : String} {attributes : List (String × String)} {text : String}
      {children : List ElementTree} {opening inner gap : List Char}
      (hattributes : WritesAttributes attributes opening)
      (hinner : Writes (.content text.toList children) inner) (hgap : Spaces gap) :
      Writes (.element (.element tag attributes text children))
        ('<' :: tag.toList ++ opening ++ '>' :: inner ++ "</".toList ++ tag.toList ++ gap ++ ['>'])
  | empty {tag : String} {attributes : List (String × String)} {opening : List Char}
      (hattributes : WritesAttributes attributes opening) :
      Writes (.element (.element tag attributes "" []))
        ('<' :: tag.toList ++ opening ++ "/>".toList)
  | nil : Writes (.content [] []) []
  | text {plain written text cs : List Char} {children : List ElementTree}
      (hpiece : Escapes isTextChar plain written) (rest : Writes (.content text children) cs) :
      Writes (.content (plain ++ text) children) (written ++ cs)
  | cdata {piece text cs : List Char} {children : List ElementTree}
      (hpiece : ¬ "]]>".toList <:+: piece) (rest : Writes (.content text children) cs) :
      Writes (.content (piece ++ text) children)
        ("<![CDATA[".toList ++ piece ++ "]]>".toList ++ cs)
  | skipped {markup text cs : List Char} {children : List ElementTree} (hmarkup : Skipped markup)
      (rest : Writes (.content text children) cs) : Writes (.content text children) (markup ++ cs)
  | child {tree : ElementTree} {written text cs : List Char} {children : List ElementTree}
      (htree : Writes (.element tree) written) (rest : Writes (.content text children) cs) :
      Writes (.content text (tree :: children)) (written ++ cs)

/-! ### Documents -/

/-- What may stand before and after the root element. -/
inductive Around : List Char → Prop
  | nil : Around []
  | space {c : Char} {cs : List Char} (hc : isSpace c = true) (rest : Around cs) : Around (c :: cs)
  | skipped {markup cs : List Char} (hmarkup : Skipped markup) (rest : Around cs) :
      Around (markup ++ cs)

/-- `text` writes a document with the given root element. -/
def WritesDocument (tree : ElementTree) (text : String) : Prop :=
  ∃ before written after, Around before ∧ Writes (.element tree) written ∧ Around after ∧
    text.toList = before ++ written ++ after

/-- The tags and keys of a tree are names, and no element has two attributes of the same key. -/
inductive ElementTree.WellNamed : ElementTree → Prop
  | element {tag : String} {attributes : List (String × String)} {text : String}
      {children : List ElementTree} (htag : IsName tag)
      (hkeys : ∀ key ∈ attributes.map Prod.fst, IsName key)
      (hnodup : (attributes.map Prod.fst).Nodup) (hchildren : ∀ child ∈ children, WellNamed child) :
      WellNamed (.element tag attributes text children)

/-! ### Every tree can be written -/

/-- Every text can be written, if what may not stand as it is has an entity. -/
theorem exists_escapes {bare : Char → Bool}
    (h : ∀ c, bare c = true ∨ ∃ name, predefinedEntity name = some c) (plain : List Char) :
    ∃ written, Escapes bare plain written := by
  induction plain with
  | nil => exact ⟨[], .nil⟩
  | cons c plain ih =>
    obtain ⟨written, hwritten⟩ := ih
    rcases h c with hc | ⟨name, hname⟩
    · exact ⟨c :: written, .bare hc hwritten⟩
    · exact ⟨_, .entity hname hwritten⟩

theorem exists_escapes_text (plain : List Char) :
    ∃ written, Escapes isTextChar plain written := by
  refine exists_escapes (fun c => ?_) plain
  by_cases hamp : c = '&'
  · exact Or.inr ⟨"amp".toList, hamp ▸ rfl⟩
  · by_cases hlt : c = '<'
    · exact Or.inr ⟨"lt".toList, hlt ▸ rfl⟩
    · exact Or.inl (by simp [isTextChar, hamp, hlt])

theorem exists_escapes_value (plain : List Char) :
    ∃ written, Escapes (isValueChar '"') plain written := by
  refine exists_escapes (fun c => ?_) plain
  by_cases hamp : c = '&'
  · exact Or.inr ⟨"amp".toList, hamp ▸ rfl⟩
  · by_cases hquote : c = '"'
    · exact Or.inr ⟨"quot".toList, hquote ▸ rfl⟩
    · exact Or.inl (by simp [isValueChar, hamp, hquote])

theorem exists_writesAttributes (attributes : List (String × String)) :
    ∃ written, WritesAttributes attributes written := by
  induction attributes with
  | nil => exact ⟨[], .nil spaces_nil⟩
  | cons first attributes ih =>
    obtain ⟨key, value⟩ := first
    obtain ⟨rest, hrest⟩ := ih
    obtain ⟨written, hwritten⟩ := exists_escapes_value value.toList
    have hgap : Spaces [' '] := spaces_singleton rfl
    exact ⟨_, .cons hgap (by simp) spaces_nil spaces_nil (Or.inl rfl) hwritten hrest⟩

theorem exists_writes_content (text : List Char) {children : List ElementTree}
    (h : ∀ child ∈ children, ∃ cs, Writes (.element child) cs) :
    ∃ cs, Writes (.content text children) cs := by
  have hchildren : ∃ cs, Writes (.content [] children) cs := by
    induction children with
    | nil => exact ⟨[], .nil⟩
    | cons child children ih =>
      obtain ⟨written, hwritten⟩ := h child List.mem_cons_self
      obtain ⟨cs, hcs⟩ := ih fun other hother => h other (List.mem_cons_of_mem _ hother)
      exact ⟨_, .child hwritten hcs⟩
  obtain ⟨cs, hcs⟩ := hchildren
  obtain ⟨written, hwritten⟩ := exists_escapes_text text
  have hall := Writes.text hwritten hcs
  rw [List.append_nil] at hall
  exact ⟨_, hall⟩

theorem exists_writesDocument {tree : ElementTree} (h : tree.WellNamed) :
    ∃ text, WritesDocument tree text := by
  have helement : ∃ cs, Writes (.element tree) cs := by
    induction h with
    | @element tag attributes text children _ _ _ _ ih =>
      obtain ⟨opening, hopening⟩ := exists_writesAttributes attributes
      obtain ⟨inner, hinner⟩ := exists_writes_content text.toList ih
      exact ⟨_, .paired hopening hinner spaces_nil⟩
  obtain ⟨cs, hcs⟩ := helement
  exact ⟨String.ofList cs, [], cs, [], .nil, hcs, .nil, by simp⟩

end GladeGo
