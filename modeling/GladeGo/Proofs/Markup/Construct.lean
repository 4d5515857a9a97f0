import GladeGo.Markup.Event
import GladeGo.Proofs.Markup.Tag

/-! # Constructs read back

A construct ends at the first `>` before which it is complete. So it is read back if it is complete
at its end and incomplete before each `>` inside (`cut_of_complete`): a `>` in a tag stands in
quotes, and in the other constructs it does not follow what would end them. -/

namespace GladeGo

open Markup

/-! ### Where a construct ends -/

theorem cutFrom_of_complete {construct : Construct} {content rest seen : List Char}
    (hend : construct.isComplete (content.reverse ++ seen) = true)
    (hinner : ∀ before after, content = before ++ '>' :: after →
      construct.isComplete (before.reverse ++ seen) = false) :
    construct.cutFrom seen (content ++ '>' :: rest) = some (seen.reverse ++ content, rest) := by
  induction content generalizing seen with
  | nil =>
    rw [List.reverse_nil, List.nil_append] at hend
    simp [Construct.cutFrom, hend]
  | cons c cs ih =>
    have hc : (c == '>' && construct.isComplete seen) = false := by
      by_cases heq : c = '>'
      · have hseen : construct.isComplete seen = false := hinner [] cs (by rw [heq]; rfl)
        rw [hseen, Bool.and_false]
      · simp [heq]
    rw [List.cons_append, Construct.cutFrom, hc, if_neg Bool.false_ne_true, ih]
    · simp
    · simpa using hend
    · intro before after heq
      simpa using hinner (c :: before) after (by rw [heq]; rfl)

theorem cut_of_complete {construct : Construct} {content : List Char} (rest : List Char)
    (hend : construct.isComplete content.reverse = true)
    (hinner : ∀ before after, content = before ++ '>' :: after →
      construct.isComplete before.reverse = false) :
    construct.cut (content ++ '>' :: rest) = some (content, rest) := by
  refine @cutFrom_of_complete construct content rest [] ?_ fun before after heq => ?_
  · rwa [List.append_nil]
  · rw [List.append_nil]
    exact hinner before after heq

/-- A character that is not in the second part of a text is in the first. -/
theorem left_of_append_eq {as bs before after : List Char} {c : Char}
    (h : as ++ bs = before ++ c :: after) (hc : c ∉ bs) : ∃ rest, as = before ++ c :: rest := by
  rcases List.append_eq_append_iff.mp h with ⟨middle, -, hbs⟩ | ⟨middle, has, hafter⟩
  · exact absurd (hbs ▸ by simp) hc
  · cases middle with
    | nil => exact absurd (hafter ▸ List.mem_cons_self : c ∈ [] ++ bs) hc
    | cons d rest =>
      obtain rfl : c = d := (List.cons.inj hafter).1
      exact ⟨rest, has⟩

/-- A character that is not in the first part of a text is in the second. -/
theorem right_of_append_eq {as bs before after : List Char} {c : Char}
    (h : as ++ bs = before ++ c :: after) (hc : c ∉ as) : ∃ rest, bs = rest ++ c :: after := by
  rcases List.append_eq_append_iff.mp h with ⟨middle, -, hbs⟩ | ⟨middle, has, hafter⟩
  · exact ⟨middle, hbs⟩
  · cases middle with
    | nil => exact ⟨[], hafter.symm⟩
    | cons d rest =>
      obtain rfl : c = d := (List.cons.inj hafter).1
      exact absurd (has ▸ by simp) hc

/-- The last characters before a place in a text. -/
theorem suffix_of_take_reverse {cs ending : List Char} {n : Nat}
    (h : cs.reverse.take n = ending) : ending.reverse <:+ cs := by
  rw [← List.reverse_prefix, List.reverse_reverse, ← h]
  exact List.take_prefix n cs.reverse

theorem readEvent_of_cut {construct : Construct} {cs content rest : List Char} {event : Event}
    (hcut : construct.cut cs = some (content, rest))
    (hstart : Construct.startingWith cs = .ok construct)
    (hgenuine : construct.isGenuine content = true)
    (hevent : construct.event content = .ok event) :
    readEvent ('<' :: cs) = .ok (event, rest) := by
  simp only [readEvent, hstart, hcut, hgenuine, hevent, if_true]

/-! ### Quotes in tags -/

theorem openQuote_append (quote : Option Char) (as bs : List Char) :
    openQuote quote (as ++ bs) = openQuote (openQuote quote as) bs := by
  induction as generalizing quote with
  | nil => rfl
  | cons a as ih => cases quote <;> simp only [List.cons_append, openQuote, ih]

theorem openQuote_none_of_plain {cs : List Char} (h : ∀ c ∈ cs, c ≠ '"' ∧ c ≠ '\'') :
    openQuote none cs = none := by
  induction cs with
  | nil => rfl
  | cons c cs ih =>
    obtain ⟨hdouble, hsingle⟩ := h c List.mem_cons_self
    rw [openQuote, if_neg (by simp [hdouble, hsingle])]
    exact ih fun d hd => h d (List.mem_cons_of_mem _ hd)

theorem openQuote_some {quote : Char} {cs : List Char} (h : quote ∉ cs) :
    openQuote (some quote) cs = some quote := by
  induction cs with
  | nil => rfl
  | cons c cs ih =>
    obtain ⟨hc, hcs⟩ := not_or.mp (List.mem_cons.not.mp h)
    rw [openQuote, if_neg (Ne.symm hc), ih hcs]

/-- All quotes are closed, and every `>` stands in quotes. -/
structure Guarded (cs : List Char) : Prop where
  closed : openQuote none cs = none
  quoted : ∀ before after, cs = before ++ '>' :: after → openQuote none before ≠ none

theorem Guarded.append {as bs : List Char} (has : Guarded as) (hbs : Guarded bs) :
    Guarded (as ++ bs) where
  closed := by rw [openQuote_append, has.closed, hbs.closed]
  quoted before after h := by
    rcases List.append_eq_append_iff.mp h with ⟨middle, rfl, hmiddle⟩ | ⟨middle, rfl, hafter⟩
    · rw [openQuote_append, has.closed]
      exact hbs.quoted middle after hmiddle
    · cases middle with
      | nil => exact absurd rfl (hbs.quoted [] after hafter.symm)
      | cons c rest =>
        obtain rfl : '>' = c := (List.cons.inj hafter).1
        exact has.quoted before rest rfl

theorem guarded_of_plain {cs : List Char} (h : ∀ c ∈ cs, c ≠ '"' ∧ c ≠ '\'' ∧ c ≠ '>') :
    Guarded cs where
  closed := openQuote_none_of_plain fun c hc => ⟨(h c hc).1, (h c hc).2.1⟩
  quoted before after heq := absurd rfl (h '>' (heq ▸ by simp)).2.2

theorem guarded_of_spaces {cs : List Char} (h : Spaces cs) : Guarded cs := by
  refine guarded_of_plain fun c hc => ?_
  have hspace := h c hc
  refine ⟨?_, ?_, ?_⟩ <;> rintro rfl <;> exact absurd hspace (by decide)

theorem IsName.guarded {name : String} (h : IsName name) : Guarded name.toList := by
  refine guarded_of_plain fun c hc => ?_
  have hchar := h.chars c hc
  refine ⟨?_, ?_, ?_⟩ <;> rintro rfl <;> exact absurd hchar (by decide)

theorem guarded_quoted {quote : Char} {cs : List Char} (hquote : quote = '"' ∨ quote = '\'')
    (h : quote ∉ cs) : Guarded (quote :: cs ++ [quote]) := by
  have hopen : ∀ cs, openQuote none (quote :: cs) = openQuote (some quote) cs := by
    intro cs
    rw [openQuote, if_pos (by simpa using hquote)]
  refine ⟨?_, fun before after heq => ?_⟩
  · rw [List.cons_append, hopen, openQuote_append, openQuote_some h]
    simp [openQuote]
  · have hlast : '>' ∉ [quote] := by rcases hquote with rfl | rfl <;> decide
    obtain ⟨rest, hrest⟩ := left_of_append_eq heq hlast
    cases before with
    | nil => rcases hquote with rfl | rfl <;> exact absurd (List.cons.inj hrest).1 (by decide)
    | cons c before =>
      obtain ⟨rfl, rfl⟩ := List.cons.inj hrest
      rw [hopen, openQuote_some fun hmem => h (List.mem_append_left _ hmem)]
      exact Option.some_ne_none _

theorem WritesAttributes.guarded {attributes : List (String × String)} {written : List Char}
    (h : WritesAttributes attributes written)
    (hkeys : ∀ key ∈ attributes.map Prod.fst, IsName key) : Guarded written := by
  induction h with
  | nil hgap => exact guarded_of_spaces hgap
  | @cons key value attributes quote gap before after written rest hgap _ hbefore hafter hquote
      hvalue _ ih =>
    have hkey : IsName key := hkeys key List.mem_cons_self
    have hrest := ih fun other hother => hkeys other (List.mem_cons_of_mem _ hother)
    have hequals : Guarded ['='] := guarded_of_plain (by simp)
    have hquoted := guarded_quoted hquote (quote_not_mem hquote hvalue)
    have hall := (((((guarded_of_spaces hgap).append hkey.guarded).append
      (guarded_of_spaces hbefore)).append hequals).append (guarded_of_spaces hafter)).append
      (hquoted.append hrest)
    simpa using hall

theorem WritesAttributes.getLast?_ne_slash {attributes : List (String × String)}
    {written : List Char} (h : WritesAttributes attributes written) :
    written.getLast? ≠ some '/' := by
  induction h with
  | nil hgap =>
    intro hlast
    exact absurd (hgap '/' (List.mem_of_getLast? hlast)) (by decide)
  | @cons _ _ _ quote _ _ _ _ rest _ _ _ _ hquote _ _ ih =>
    have hne : quote ≠ '/' := by rcases hquote with rfl | rfl <;> decide
    rw [List.getLast?_append, List.getLast?_cons, Option.some_or]
    cases hrest : rest.getLast? with
    | none => exact fun h => hne (Option.some.inj h)
    | some c => exact fun h => ih (hrest.trans h)

/-- The tag of an element with content does not end like the one of an empty element. -/
theorem getLast?_ne_slash {tag : String} {attributes : List (String × String)} {written : List Char}
    (htag : IsName tag) (h : WritesAttributes attributes written) :
    (tag.toList ++ written).getLast? ≠ some '/' := by
  rw [List.getLast?_append]
  cases hwritten : written.getLast? with
  | none =>
    intro hlast
    exact htag.not_mem (by decide) (List.mem_of_getLast? hlast)
  | some c => exact fun hlast => h.getLast?_ne_slash (hwritten.trans hlast)

/-! ### The events of tags -/

theorem Guarded.cut {construct : Construct}
    (htag : ∀ seen, construct.isComplete seen = (openQuote none seen.reverse).isNone)
    {content : List Char} (h : Guarded content) (rest : List Char) :
    construct.cut (content ++ '>' :: rest) = some (content, rest) := by
  refine cut_of_complete rest ?_ fun before after heq => ?_
  · rw [htag, List.reverse_reverse, h.closed]
    rfl
  · rw [htag, List.reverse_reverse]
    exact Option.isNone_eq_false_iff.mpr (Option.isSome_iff_ne_none.mpr (h.quoted before after heq))

theorem startingWith_name {tag : String} (htag : IsName tag) (cs : List Char) :
    Construct.startingWith (tag.toList ++ cs) = .ok .openingTag := by
  obtain ⟨c, name, hname⟩ := List.exists_cons_of_ne_nil htag.ne_nil
  have hc : ∀ d, isNameChar d = false → c ≠ d := by
    rintro d hd rfl
    exact htag.not_mem hd (hname ▸ List.mem_cons_self)
  have hbang := hc '!' (by decide)
  have hquestion := hc '?' (by decide)
  have hslash := hc '/' (by decide)
  rw [hname, List.cons_append]
  unfold Construct.startingWith
  split <;> simp_all

section Tags
variable {tag : String} {attributes : List (String × String)} {written gap : List Char}
  (htag : IsName tag) (rest : List Char)
include htag

theorem readEvent_opening (h : WritesAttributes attributes written)
    (hkeys : ∀ key ∈ attributes.map Prod.fst, IsName key) :
    readEvent ('<' :: (tag.toList ++ written ++ '>' :: rest)) =
      .ok (.opening (tag.toList ++ written) false, rest) := by
  have hcut : Construct.openingTag.cut (tag.toList ++ written ++ '>' :: rest) =
      some (tag.toList ++ written, rest) :=
    (htag.guarded.append (h.guarded hkeys)).cut (fun _ => rfl) rest
  refine readEvent_of_cut hcut ?_ rfl (if_neg (getLast?_ne_slash htag h))
  rw [List.append_assoc]
  exact startingWith_name htag _

theorem readEvent_empty (h : WritesAttributes attributes written)
    (hkeys : ∀ key ∈ attributes.map Prod.fst, IsName key) :
    readEvent ('<' :: (tag.toList ++ written ++ '/' :: '>' :: rest)) =
      .ok (.opening (tag.toList ++ written) true, rest) := by
  have hslash : Guarded ['/'] := guarded_of_plain (by simp)
  have hcut : Construct.openingTag.cut (tag.toList ++ written ++ '/' :: '>' :: rest) =
      some (tag.toList ++ written ++ ['/'], rest) := by
    have hguarded := (htag.guarded.append (h.guarded hkeys)).append hslash
    have hcut : Construct.openingTag.cut _ = _ := hguarded.cut (fun _ => rfl) rest
    simpa using hcut
  refine readEvent_of_cut hcut ?_ rfl ?_
  · rw [List.append_assoc]
    exact startingWith_name htag _
  · rw [Construct.event, if_pos List.getLast?_concat, List.dropLast_concat]

theorem closingName_append (hgap : Spaces gap) :
    closingName ('/' :: (tag.toList ++ gap)) = tag.toList := by
  have hchars := htag.isSpace_eq_false
  have hne := htag.ne_nil
  unfold closingName
  rw [List.tail_cons]
  generalize tag.toList = name at hchars hne ⊢
  obtain ⟨init, last, rfl⟩ : ∃ init last, name = init ++ [last] :=
    ⟨_, _, (List.dropLast_concat_getLast hne).symm⟩
  have hlast : isSpace last = false := by simpa using hchars last (by simp)
  have hall : (init ++ [last] ++ gap).all isSpace = false := by simp [hlast]
  have hdrop : (init ++ [last] ++ gap).reverse.dropWhile isSpace = last :: init.reverse := by
    have hspaces : ∀ c ∈ gap.reverse, isSpace c = true := fun c hc =>
      hgap c (List.mem_reverse.mp hc)
    have hreverse : (init ++ [last] ++ gap).reverse = gap.reverse ++ last :: init.reverse := by simp
    rw [hreverse]
    exact dropWhile_append_cons hspaces hlast
  simp only [hall, hdrop, Bool.false_eq_true, if_false, List.reverse_cons, List.reverse_reverse]

theorem readEvent_closing (hgap : Spaces gap) :
    readEvent ('<' :: '/' :: (tag.toList ++ gap ++ '>' :: rest)) =
      .ok (.closing tag.toList, rest) := by
  have hslash : Guarded ['/'] := guarded_of_plain (by simp)
  have hcut : Construct.closingTag.cut ('/' :: (tag.toList ++ gap ++ '>' :: rest)) =
      some ('/' :: (tag.toList ++ gap), rest) :=
    (hslash.append (htag.guarded.append (guarded_of_spaces hgap))).cut (fun _ => rfl) rest
  refine readEvent_of_cut hcut rfl rfl ?_
  rw [Construct.event, closingName_append htag hgap]

end Tags

/-! ### The events of other constructs -/

theorem readEvent_cdata {piece : List Char} (h : ¬ "]]>".toList <:+: piece) (rest : List Char) :
    readEvent ("<![CDATA[".toList ++ piece ++ "]]>".toList ++ rest) = .ok (.cdata piece, rest) := by
  have hcut : Construct.cdata.cut ("![CDATA[".toList ++ piece ++ "]]".toList ++ '>' :: rest) =
      some ("![CDATA[".toList ++ piece ++ "]]".toList, rest) := by
    refine cut_of_complete rest (by simp [Construct.isComplete]) fun before after heq => ?_
    refine Bool.eq_false_iff.mpr fun hcomplete => h ?_
    obtain ⟨outer, rfl⟩ := suffix_of_take_reverse (eq_of_beq hcomplete)
    obtain ⟨after, heq⟩ := left_of_append_eq heq (by decide)
    have hend : "![CDATA[".toList ++ piece = outer ++ ']' :: ']' :: '>' :: after := by
      simpa using heq
    obtain ⟨inner, rfl⟩ := right_of_append_eq hend (by decide)
    exact ⟨inner, after, by simp⟩
  have hread : readEvent ('<' :: ("![CDATA[".toList ++ piece ++ "]]".toList ++ '>' :: rest)) =
      .ok (.cdata piece, rest) := by
    refine readEvent_of_cut hcut rfl (by simp [Construct.isGenuine]) ?_
    simp [Construct.event]
  simpa using hread

theorem readEvent_comment {content : List Char} (h : ¬ ['-', '-'] <:+: content) (rest : List Char) :
    readEvent ("<!--".toList ++ content ++ "-->".toList ++ rest) = .ok (.skipped, rest) := by
  have hcut : Construct.comment.cut ("!--".toList ++ content ++ "--".toList ++ '>' :: rest) =
      some ("!--".toList ++ content ++ "--".toList, rest) := by
    refine cut_of_complete rest (by simp [Construct.isComplete]) fun before after heq => ?_
    refine Bool.eq_false_iff.mpr fun hcomplete => h ?_
    simp only [Construct.isComplete, Bool.and_eq_true, decide_eq_true_eq, beq_iff_eq,
      List.length_reverse] at hcomplete
    obtain ⟨hdashes, hlength⟩ := hcomplete
    obtain ⟨outer, rfl⟩ := suffix_of_take_reverse hdashes
    obtain ⟨after, heq⟩ := left_of_append_eq heq (by decide)
    -- The two dashes are not those of the opening, which are too early to end a comment.
    have hend : "!--".toList ++ content = outer ++ '-' :: '-' :: '>' :: after := by simpa using heq
    rcases List.append_eq_append_iff.mp hend with ⟨inner, -, hcontent⟩ | ⟨middle, hopen, hcontent⟩
    · exact ⟨inner, '>' :: after, by simp [hcontent]⟩
    · have hshort := congrArg List.length hopen
      have hopening : "!--".toList.length = 3 := rfl
      simp only [List.length_append, List.length_reverse, List.length_cons, List.length_nil,
        hopening] at hshort hlength
      obtain rfl : middle = [] := List.eq_nil_of_length_eq_zero (by omega)
      exact ⟨[], '>' :: after, by simpa using hcontent⟩
  have hread : readEvent ('<' :: ("!--".toList ++ content ++ "--".toList ++ '>' :: rest)) =
      .ok (.skipped, rest) :=
    readEvent_of_cut hcut rfl (by simp [Construct.isGenuine]) rfl
  simpa using hread

theorem readEvent_instruction {content : List Char} (h : ¬ ['?', '>'] <:+: '?' :: content)
    (rest : List Char) :
    readEvent ("<?".toList ++ content ++ "?>".toList ++ rest) = .ok (.skipped, rest) := by
  have hcut : Construct.instruction.cut ('?' :: (content ++ ['?']) ++ '>' :: rest) =
      some ('?' :: (content ++ ['?']), rest) := by
    refine cut_of_complete rest (by simp [Construct.isComplete]) fun before after heq => ?_
    refine Bool.eq_false_iff.mpr fun hcomplete => h ?_
    obtain ⟨outer, rfl⟩ := suffix_of_take_reverse (eq_of_beq hcomplete)
    have hend : '?' :: content ++ ['?'] = outer ++ ['?'] ++ '>' :: after := heq
    obtain ⟨after, heq⟩ := left_of_append_eq hend (by decide)
    exact ⟨outer, after, by simpa using heq.symm⟩
  have hread : readEvent ('<' :: ('?' :: (content ++ ['?']) ++ '>' :: rest)) =
      .ok (.skipped, rest) :=
    readEvent_of_cut hcut rfl (by simp [Construct.isGenuine]) rfl
  simpa using hread

theorem readEvent_skipped {markup : List Char} (h : Skipped markup) (rest : List Char) :
    readEvent (markup ++ rest) = .ok (.skipped, rest) := by
  cases h with
  | comment h => exact readEvent_comment h rest
  | instruction h => exact readEvent_instruction h rest

theorem readEvent_text {written : List Char} (hne : written ≠ []) (h : '<' ∉ written)
    (rest : List Char) :
    readEvent (written ++ '<' :: rest) = .ok (.text written, '<' :: rest) := by
  have hplain : ∀ c ∈ written, (c != '<') = true := by
    intro c hc
    simp only [bne_iff_ne, ne_eq]
    rintro rfl
    exact h hc
  have hend : ('<' != '<') = false := by decide
  obtain ⟨c, cs, rfl⟩ := List.exists_cons_of_ne_nil hne
  unfold readEvent
  split
  · rename_i heq
    obtain rfl := (List.cons.inj heq).1
    exact absurd List.mem_cons_self h
  · rw [takeWhile_append_cons hplain hend, dropWhile_append_cons hplain hend]

end GladeGo
