import GladeGo.Proofs.Document.Writing
import GladeGo.Proofs.Run
import Mathlib.Data.List.TakeWhile
import Mathlib.Tactic.SplitIfs

/-! # Tags read back

What a writing stands for is what is read from it: the text behind its entities
(`decode_of_escapes`) and the attributes of a tag (`read_of_writesAttributes`). No two attributes of
a tag that has been read share a key (`nodup_keys_of_read`). -/

namespace GladeGo

open Markup

/-! ### Scanning -/

theorem takeWhile_append_cons {p : Char → Bool} {as bs : List Char} {c : Char}
    (has : ∀ a ∈ as, p a = true) (hc : p c = false) : (as ++ c :: bs).takeWhile p = as := by
  rw [List.takeWhile_append_of_pos has, List.takeWhile_cons_of_neg (by simp [hc]), List.append_nil]

theorem dropWhile_append_cons {p : Char → Bool} {as bs : List Char} {c : Char}
    (has : ∀ a ∈ as, p a = true) (hc : p c = false) : (as ++ c :: bs).dropWhile p = c :: bs := by
  rw [List.dropWhile_append_of_pos has, List.dropWhile_cons_of_neg (by simp [hc])]

/-! ### Entities -/

theorem isAlpha_of_predefinedEntity {name : List Char} {c : Char}
    (h : predefinedEntity name = some c) : ∀ x ∈ name, x.isAlpha = true := by
  unfold predefinedEntity at h
  split_ifs at h <;> simp_all

theorem decodeSuffix_eq (whole cs : List Char) : decodeSuffix whole cs =
    match cs.dropWhile (· != '&') with
    | [] => .ok (cs.takeWhile (· != '&'))
    | opening :: tail =>
      match tail.dropWhile isReferenceChar with
      | ';' :: rest => do
        let char ← referencedChar whole (tail.takeWhile isReferenceChar) (';' :: rest)
        let chars ← decodeSuffix whole rest
        .ok (cs.takeWhile (· != '&') ++ char :: chars)
      | _ =>
        .error (.unterminated (Text.offsetOf whole (opening :: tail)) (Text.utf8Length whole)) := by
  rw [decodeSuffix]
  split <;> rename_i hdrop <;> rw [hdrop]
  dsimp only
  split <;> rename_i htail
  · rw [htail]
    rfl
  · split
    · rename_i h; exact absurd h (htail _)
    · rfl

theorem decodeSuffix_cons {whole cs : List Char} {c : Char} (hc : c ≠ '&') :
    decodeSuffix whole (c :: cs) = (decodeSuffix whole cs).map (c :: ·) := by
  have hplain : (c != '&') = true := by simpa using hc
  rw [decodeSuffix_eq, decodeSuffix_eq whole cs]
  simp only [List.takeWhile_cons, List.dropWhile_cons, hplain, if_true]
  cases cs.dropWhile (· != '&') with
  | nil => rfl
  | cons opening tail =>
    dsimp only
    split
    · rename_i rest _
      cases referencedChar whole (tail.takeWhile isReferenceChar) (';' :: rest) with
      | error fault => rfl
      | ok char => cases decodeSuffix whole rest <;> rfl
    · rfl

theorem referencedChar_of_predefinedEntity {whole name after : List Char} {c : Char}
    (h : predefinedEntity name = some c) : referencedChar whole name after = .ok c := by
  unfold referencedChar
  split
  · have hsign := isAlpha_of_predefinedEntity h '#' List.mem_cons_self
    exact absurd hsign (by decide)
  · rw [h]

theorem decodeSuffix_entity {whole name cs : List Char} {c : Char}
    (h : predefinedEntity name = some c) :
    decodeSuffix whole ('&' :: name ++ ';' :: cs) = (decodeSuffix whole cs).map (c :: ·) := by
  have hname : ∀ x ∈ name, isReferenceChar x = true := by
    intro x hx
    have halpha := isAlpha_of_predefinedEntity h x hx
    have hamp : x ≠ '&' := by rintro rfl; exact absurd halpha (by decide)
    have hend : x ≠ ';' := by rintro rfl; exact absurd halpha (by decide)
    simp [isReferenceChar, hamp, hend]
  have hend : isReferenceChar ';' = false := rfl
  rw [decodeSuffix_eq, List.cons_append, List.dropWhile_cons_of_neg (by simp),
    List.takeWhile_cons_of_neg (by simp)]
  dsimp only
  simp only [dropWhile_append_cons hname hend, takeWhile_append_cons hname hend]
  rw [referencedChar_of_predefinedEntity h]
  cases decodeSuffix whole cs <;> rfl

/-- **The text behind its entities** is read back. -/
theorem decode_of_escapes {bare : Char → Bool} (hamp : bare '&' = false) {plain written : List Char}
    (h : Escapes bare plain written) : decode written = .ok plain := by
  have hsuffix : ∀ whole, decodeSuffix whole written = .ok plain := by
    intro whole
    induction h with
    | nil => rw [decodeSuffix_eq]; rfl
    | bare hc _ ih =>
      rw [decodeSuffix_cons (by rintro rfl; simp_all), ih]
      rfl
    | entity hname _ ih =>
      rw [decodeSuffix_entity hname, ih]
      rfl
  exact hsuffix written

/-- What may not stand as it is does not occur in a writing, if it is not part of an entity. -/
theorem not_mem_of_escapes {bare : Char → Bool} {plain written : List Char}
    (h : Escapes bare plain written) {x : Char} (hbare : bare x = false)
    (halpha : x.isAlpha = false) (hamp : x ≠ '&') (hend : x ≠ ';') : x ∉ written := by
  induction h with
  | nil => simp
  | @bare c _ _ hc _ ih =>
    have hx : x ≠ c := by rintro rfl; simp_all
    simp [hx, ih]
  | @entity name _ _ _ hname _ ih =>
    have hx : x ∉ name := by
      intro hmem
      have := isAlpha_of_predefinedEntity hname x hmem
      simp_all
    simp [hx, ih, hamp, hend]

/-! ### Names -/

theorem isNameChar_iff {c : Char} :
    isNameChar c = true ↔ isSpace c = false ∧ c ∉ tagMarks := by
  simp [isNameChar]

/-- A name has no white space and none of the characters that mean something in a tag. -/
theorem IsName.not_mem {name : String} (h : IsName name) {c : Char}
    (hc : isNameChar c = false) : c ∉ name.toList := by
  intro hmem
  rw [h.chars c hmem] at hc
  cases hc

theorem IsName.isSpace_eq_false {name : String} (h : IsName name) :
    ∀ c ∈ name.toList, (!isSpace c) = true := by
  intro c hc
  rw [(isNameChar_iff.mp (h.chars c hc)).1]
  rfl

theorem IsName.isKeyChar {name : String} (h : IsName name) :
    ∀ c ∈ name.toList, isKeyChar c = true := by
  intro c hc
  obtain ⟨hspace, hmarkup⟩ := isNameChar_iff.mp (h.chars c hc)
  have hequals : c ≠ '=' := by rintro rfl; exact hmarkup (by decide)
  simp [Markup.isKeyChar, hequals, hspace]

/-! ### Attributes -/

theorem quote_not_mem {quote : Char} {plain written : List Char}
    (hquote : quote = '"' ∨ quote = '\'') (h : Escapes (isValueChar quote) plain written) :
    quote ∉ written := by
  rcases hquote with rfl | rfl <;>
    exact not_mem_of_escapes h (by decide) (by decide) (by decide) (by decide)

theorem readValue_of_escapes (content rest : List Char) {after written plain : List Char}
    {quote : Char} (hafter : Spaces after) (hquote : quote = '"' ∨ quote = '\'')
    (hvalue : Escapes (isValueChar quote) plain written) :
    readValue content (after ++ quote :: (written ++ quote :: rest)) = .ok (written, rest) := by
  have hspace : isSpace quote = false := by rcases hquote with rfl | rfl <;> rfl
  have hinside : ∀ c ∈ written, (c != quote) = true := by
    intro c hc
    simp only [bne_iff_ne, ne_eq]
    rintro rfl
    exact quote_not_mem hquote hvalue hc
  have hend : (quote != quote) = false := by simp
  have hquoted : (decide (quote = '"') || decide (quote = '\'')) = true := by
    rcases hquote with rfl | rfl <;> rfl
  unfold readValue
  rw [dropWhile_append_cons hafter hspace]
  dsimp only
  rw [if_pos hquoted, dropWhile_append_cons hinside hend, takeWhile_append_cons hinside hend]

theorem readAttribute_of_escapes (content rest : List Char) {before after written : List Char}
    {key : String} {plain : List Char} {quote : Char} {seen : List (List Char × Nat)}
    (hkey : IsName key)
    (hbefore : Spaces before) (hafter : Spaces after) (hquote : quote = '"' ∨ quote = '\'')
    (hvalue : Escapes (isValueChar quote) plain written) (hseen : seen.lookup key.toList = none) :
    readAttribute content seen
      (key.toList ++ (before ++ '=' :: (after ++ quote :: (written ++ quote :: rest)))) =
      .ok (key.toList, written, rest) := by
  have hread := readValue_of_escapes content rest hafter hquote hvalue
  have hne := hkey.ne_nil
  have hchars := hkey.isKeyChar
  generalize after ++ quote :: (written ++ quote :: rest) = tail at hread ⊢
  generalize key.toList = name at hne hchars hseen ⊢
  obtain ⟨k, ks, rfl⟩ := List.exists_cons_of_ne_nil hne
  have hks : ∀ c ∈ ks, isKeyChar c = true := fun c hc => hchars c (List.mem_cons_of_mem _ hc)
  -- The key ends at the first space, or at the equals sign if there is none.
  have hstop : ∃ c cs, before ++ '=' :: tail = c :: cs ∧ isKeyChar c = false := by
    cases before with
    | nil => exact ⟨'=', tail, rfl, rfl⟩
    | cons c cs => exact ⟨c, _, rfl, by simp [isKeyChar, hbefore c List.mem_cons_self]⟩
  have hequals : (before ++ '=' :: tail).dropWhile isSpace = '=' :: tail :=
    dropWhile_append_cons hbefore rfl
  obtain ⟨c, cs, hcons, hc⟩ := hstop
  rw [hcons] at hequals ⊢
  unfold readAttribute
  rw [List.cons_append, List.tail_cons, takeWhile_append_cons hks hc, dropWhile_append_cons hks hc,
    hequals]
  have htake : (k :: (ks ++ c :: cs)).take 1 ++ ks = k :: ks := rfl
  simp only [htake, hseen, hread]
  rfl

theorem dropWhile_name {name : String} {gap : List Char} (hname : IsName name) (hgap : Spaces gap)
    (rest : List Char) :
    (gap ++ (name.toList ++ rest)).dropWhile isSpace = name.toList ++ rest := by
  obtain ⟨c, cs, hcons⟩ := List.exists_cons_of_ne_nil hname.ne_nil
  have hc : isSpace c = false :=
    (isNameChar_iff.mp (hname.chars c (hcons ▸ List.mem_cons_self))).1
  rw [hcons, List.cons_append]
  exact dropWhile_append_cons hgap hc

theorem readAttributes_nil {content cs : List Char} {seen : List (List Char × Nat)}
    (hcs : Spaces cs) : readAttributes content seen cs = .ok [] := by
  have hdrop : cs.dropWhile isSpace = [] := List.dropWhile_eq_nil_iff.mpr hcs
  rw [readAttributes]
  split
  · rfl
  · rename_i h
    rw [hdrop] at h
    cases h

theorem readAttributes_cons {content cs rest key written value after : List Char} {c : Char}
    {seen : List (List Char × Nat)} (hstart : cs.dropWhile isSpace = c :: rest)
    (hread : readAttribute content seen (c :: rest) = .ok (key, written, after))
    (hdecode : decode written = .ok value) :
    readAttributes content seen cs =
      (readAttributes content ((key, Text.offsetOf content (c :: rest)) :: seen) after).map
        ((String.ofList key, String.ofList value) :: ·) := by
  rw [readAttributes]
  split
  · simp_all
  · rename_i hstart'
    rw [hstart] at hstart'
    cases hstart'
    split
    · simp_all
    · rename_i hread'
      rw [hread] at hread'
      cases hread'
      rw [hdecode]
      dsimp only
      cases readAttributes content ((key, Text.offsetOf content (c :: rest)) :: seen) after <;> rfl

/-- The attributes of a tag are read back, if none of their keys has been seen. -/
theorem readAttributes_of_writesAttributes (content : List Char)
    {attributes : List (String × String)} {written : List Char} {seen : List (List Char × Nat)}
    (h : WritesAttributes attributes written) (hkeys : ∀ key ∈ attributes.map Prod.fst, IsName key)
    (hnodup : (attributes.map Prod.fst).Nodup)
    (hseen : ∀ key ∈ attributes.map Prod.fst, seen.lookup key.toList = none) :
    readAttributes content seen written = .ok attributes := by
  induction h generalizing seen with
  | nil hgap => exact readAttributes_nil hgap
  | @cons key value attributes quote gap before after written rest hgap _ hbefore hafter hquote
      hvalue _ ih =>
    rw [List.map_cons] at hkeys hnodup hseen
    obtain ⟨hfirst, hnodup⟩ := List.nodup_cons.mp hnodup
    have hkey := hkeys key List.mem_cons_self
    have hread := readAttribute_of_escapes content rest hkey hbefore hafter hquote hvalue
      (hseen key List.mem_cons_self)
    have hamp : isValueChar quote '&' = false := by simp [isValueChar]
    have hdecode := decode_of_escapes hamp hvalue
    have hstart := dropWhile_name hkey hgap
      (before ++ '=' :: (after ++ quote :: (written ++ quote :: rest)))
    obtain ⟨c, cs, hcons⟩ := List.exists_cons_of_ne_nil hkey.ne_nil
    simp only [List.append_assoc, List.cons_append, hcons] at hread hstart ⊢
    rw [readAttributes_cons hstart hread hdecode, ih, Except.map, ← hcons, String.ofList_toList,
      String.ofList_toList]
    · exact fun other hother => hkeys other (List.mem_cons_of_mem _ hother)
    · exact hnodup
    · intro other hother
      have hne : (other.toList == key.toList) = false := by
        rw [beq_eq_false_iff_ne]
        intro heq
        exact hfirst (String.toList_injective heq ▸ hother)
      rw [List.lookup_cons, ← hcons, hne]
      exact hseen other (List.mem_cons_of_mem _ hother)

/-- What follows the name in a tag begins with white space. -/
theorem head_of_writesAttributes {attributes : List (String × String)} {written : List Char}
    (h : WritesAttributes attributes written) :
    written = [] ∨ ∃ c cs, written = c :: cs ∧ isSpace c = true := by
  cases h with
  | nil hgap =>
    cases written with
    | nil => exact Or.inl rfl
    | cons c cs => exact Or.inr ⟨c, cs, rfl, hgap c List.mem_cons_self⟩
  | @cons _ _ _ _ gap _ _ _ _ hgap hne =>
    obtain ⟨c, cs, rfl⟩ := List.exists_cons_of_ne_nil hne
    exact Or.inr ⟨c, _, rfl, hgap c List.mem_cons_self⟩

theorem tagName_of_isName {tag : String} (htag : IsName tag) {written : List Char}
    (hwritten : written = [] ∨ ∃ c cs, written = c :: cs ∧ isSpace c = true) :
    tagName (tag.toList ++ written) = tag.toList ∧
      (tag.toList ++ written).dropWhile (fun c => !isSpace c) = written := by
  have hchars := htag.isSpace_eq_false
  rcases hwritten with rfl | ⟨c, cs, rfl, hc⟩
  · rw [List.append_nil]
    exact ⟨List.takeWhile_eq_self_iff.mpr hchars, List.dropWhile_eq_nil_iff.mpr hchars⟩
  · have hend : (!isSpace c) = false := by rw [hc]; rfl
    exact ⟨takeWhile_append_cons hchars hend, dropWhile_append_cons hchars hend⟩

/-- **A tag is read back**: its name and its attributes. -/
theorem read_of_writesAttributes {tag : String} {attributes : List (String × String)}
    {written : List Char} (htag : IsName tag) (h : WritesAttributes attributes written)
    (hkeys : ∀ key ∈ attributes.map Prod.fst, IsName key)
    (hnodup : (attributes.map Prod.fst).Nodup) :
    Tag.read (tag.toList ++ written) = .ok ⟨tag, attributes⟩ := by
  obtain ⟨hname, hrest⟩ := tagName_of_isName htag (head_of_writesAttributes h)
  have hread := readAttributes_of_writesAttributes (tag.toList ++ written) h hkeys hnodup
    fun key _ => (List.lookup_nil : ([] : List (List Char × Nat)).lookup key.toList = none)
  rw [Tag.read, hname, hrest, hread, String.ofList_toList]
  rfl

/-! ### The keys of a tag -/

theorem lookup_of_readAttribute {content cs key value after : List Char}
    {seen : List (List Char × Nat)} (h : readAttribute content seen cs = .ok (key, value, after)) :
    seen.lookup key = none := by
  unfold readAttribute at h
  dsimp only at h
  split at h
  · split at h
    · cases h
    · rename_i hlookup
      obtain ⟨read, -, hread⟩ := bind_eq_ok.mp h
      cases hread
      exact hlookup
  · cases h

/-- The keys are distinct, and none of them has been seen before. -/
theorem keys_of_readAttributes {content cs : List Char} {seen : List (List Char × Nat)}
    {attributes : List (String × String)} (h : readAttributes content seen cs = .ok attributes) :
    (attributes.map Prod.fst).Nodup ∧
      ∀ key ∈ seen.map Prod.fst, String.ofList key ∉ attributes.map Prod.fst := by
  fun_induction readAttributes content seen cs generalizing attributes with
  | case1 => cases h; simp
  | case2 => cases h
  | case3 => cases h
  | case4 seen cs c rest _ key written after hread value =>
    rename_i ih
    obtain ⟨others, hothers, hattributes⟩ := bind_eq_ok.mp h
    cases hattributes
    obtain ⟨hnodup, hseen⟩ := ih hothers
    have hfirst := hseen key List.mem_cons_self
    have hnew := lookup_of_readAttribute hread
    refine ⟨List.nodup_cons.mpr ⟨hfirst, hnodup⟩, fun other hother hmem => ?_⟩
    rcases List.mem_cons.mp hmem with heq | hmem
    · obtain rfl : other = key := String.ofList_injective heq
      obtain ⟨⟨_, position⟩, hentry, rfl⟩ := List.mem_map.mp hother
      have := List.lookup_eq_none_iff.mp hnew _ hentry
      simp at this
    · exact hseen other (List.mem_cons_of_mem _ hother) hmem

theorem nodup_keys_of_read {content : List Char} {tag : Tag} (h : Tag.read content = .ok tag) :
    (tag.attributes.map Prod.fst).Nodup := by
  obtain ⟨attributes, hattributes, htag⟩ := bind_eq_ok.mp h
  cases htag
  exact (keys_of_readAttributes hattributes).1

end GladeGo
