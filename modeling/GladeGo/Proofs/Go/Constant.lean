import GladeGo.Proofs.Go.IntegerLiteral
import GladeGo.Proofs.Run
import GladeGo.Proofs.Text.Contains

/-! # Combinations of constants

The texts that are read as combinations of constants, and what is written for them. Between the bars
of a combination stand integers and names (`IsConstantPart`), and there is one piece of Go code for
each of them (`RendersTo`). The pieces hold no space (`RendersTo.pieceChars`), so that they are found
again between the spaced bars of the code (`splitAtBars_intercalate`). A word of upper-case letters is
in the code exactly if it is in the text (`infix_constant_iff`). An integer stands for itself, zeros
in front of it included, where Go reads octal digits. -/

namespace GladeGo.Go

open GladeGo.Text

/-! ### Parts -/

/-- The parts of a combination of constants, without the blanks around them. -/
def constantParts (raw : String) : List (List Char) := (raw.toList.splitOn '|').map trimChars

/-- An upper-case letter, and then upper-case letters, digits and underscores, all of ASCII. -/
def IsConstantName (name : List Char) : Prop :=
  ∃ first rest, name = first :: rest ∧ first.isUpper = true ∧
    ∀ c ∈ rest, c.isUpper = true ∨ c.isDigit = true ∨ c = '_'

/-- An integer of 64 bits, or the name of a constant behind `wx`. -/
def IsConstantPart (part : List Char) : Prop :=
  (∃ i, IsInt64 part i) ∨ ∃ name, IsConstantName name ∧ part = 'w' :: 'x' :: name

/-- What is written for a part: an integer as it stands, and `wx.NAME` for `wxNAME`. -/
inductive RendersTo : List Char → List Char → Prop
  | integer {part : List Char} {i : Int} (h : IsInt64 part i) : RendersTo part part
  | name {name : List Char} (h : IsConstantName name) :
    RendersTo ('w' :: 'x' :: name) ('w' :: 'x' :: '.' :: name)

theorem isConstantPart_iff {part : List Char} :
    IsConstantPart part ↔ ∃ piece, RendersTo part piece := by
  constructor
  · rintro (⟨i, h⟩ | ⟨name, h, rfl⟩)
    · exact ⟨_, .integer h⟩
    · exact ⟨_, .name h⟩
  · rintro ⟨piece, h⟩
    cases h with
    | integer h => exact Or.inl ⟨_, h⟩
    | name h => exact Or.inr ⟨_, h, rfl⟩

theorem isConstantName_iff {name : List Char} :
    isConstantName name = true ↔ IsConstantName name := by
  cases name with
  | nil => simp [isConstantName, IsConstantName]
  | cons first rest =>
    simp [isConstantName, IsConstantName, isConstantChar, or_assoc]

theorem not_isDecimal_name {name : List Char} {i : Int} : ¬IsDecimal ('w' :: name) i := by
  intro h
  have hletter : ¬(Char.isDigit 'w' = true ∨ 'w' = '+' ∨ 'w' = '-') := by decide
  exact hletter (isDigit_or_sign_of_isDecimal h 'w' List.mem_cons_self)

/-- Whether `c` may stand in a piece of Go code that is written for a part. -/
def isPieceChar (c : Char) : Bool :=
  c.isDigit || c.isUpper || ['+', '-', '_', 'w', 'x', '.'].contains c

theorem RendersTo.pieceChars {part piece : List Char} (h : RendersTo part piece) :
    ∀ c ∈ piece, isPieceChar c = true := by
  have hletter : ∀ c ∈ ['+', '-', '_', 'w', 'x', '.'], isPieceChar c = true := fun c hc => by
    rw [isPieceChar, Bool.or_eq_true, List.contains_iff_mem]
    exact Or.inr hc
  have hupper : ∀ c : Char, c.isUpper = true → isPieceChar c = true := fun c hc => by
    simp [isPieceChar, hc]
  have hdigit : ∀ c : Char, c.isDigit = true → isPieceChar c = true := fun c hc => by
    simp [isPieceChar, hc]
  cases h with
  | integer h =>
    intro c hc
    rcases isDigit_or_sign_of_isDecimal h.1 c hc with h | rfl | rfl
    · exact hdigit c h
    · exact hletter _ (by decide)
    · exact hletter _ (by decide)
  | name h =>
    obtain ⟨first, rest, rfl, hfirst, hrest⟩ := h
    simp only [List.forall_mem_cons]
    refine ⟨hletter _ (by decide), hletter _ (by decide), hletter _ (by decide),
      hupper _ hfirst, fun c hc => ?_⟩
    rcases hrest c hc with h | h | rfl
    · exact hupper c h
    · exact hdigit c h
    · exact hletter _ (by decide)

theorem RendersTo.ne_nil {part piece : List Char} (h : RendersTo part piece) : piece ≠ [] := by
  cases h with
  | integer h => exact h.1.ne_nil
  | name h => exact List.cons_ne_nil _ _

/-- **The parts that are read**, and what is written for them. -/
theorem constantPart_eq_ok_iff {part piece : List Char} :
    constantPart part = .ok piece ↔ RendersTo part piece := by
  constructor
  · intro h
    unfold constantPart at h
    split at h
    · rename_i i hread
      cases h
      exact .integer (readInt_eq_ok_iff.mp hread)
    · split at h
      · rename_i hname
        cases h
        exact .name (isConstantName_iff.mp hname)
      · cases h
    · cases h
  · intro h
    unfold constantPart
    cases h with
    | integer h => rw [readInt_eq_ok_iff.mpr h]
    | @name name h =>
      cases hread : readInt ('w' :: 'x' :: name) with
      | error fault => simp only [isConstantName_iff.mpr h, if_true]
      | ok i => exact absurd (readInt_eq_ok_iff.mp hread).1 not_isDecimal_name

theorem constantPart_eq_error {part : List Char} {fault : LiteralFault}
    (h : constantPart part = .error fault) : fault = .notConstant (String.ofList part) := by
  unfold constantPart at h
  split at h
  · cases h
  · split at h
    · cases h
    · exact (Except.error.inj h).symm
  · exact (Except.error.inj h).symm

/-! ### Combinations -/

theorem constant_eq (raw : String) : constant raw =
    (constantParts raw).mapM constantPart >>= fun pieces =>
      .ok (" | ".intercalate (pieces.map String.ofList)) := by
  rw [constantParts, List.mapM_map]
  rfl

theorem constant_eq_ok_iff {raw text : String} : constant raw = .ok text ↔
    ∃ pieces, List.Forall₂ RendersTo (constantParts raw) pieces ∧
      " | ".intercalate (pieces.map String.ofList) = text := by
  rw [constant_eq, bind_eq_ok]
  simp only [mapM_eq_ok_iff, constantPart_eq_ok_iff, Except.ok.injEq]

/-- What is written for a combination is put together of pieces, one at least. -/
theorem exists_pieces {raw text : String} (h : constant raw = .ok text) :
    ∃ pieces, pieces ≠ [] ∧ List.Forall₂ RendersTo (constantParts raw) pieces ∧
      text.toList = " | ".toList.intercalate pieces := by
  obtain ⟨pieces, hpieces, rfl⟩ := constant_eq_ok_iff.mp h
  refine ⟨pieces, ?_, hpieces, ?_⟩
  · rintro rfl
    have hnil := List.forall₂_nil_right_iff.mp hpieces
    exact List.splitOn_ne_nil '|' raw.toList (List.map_eq_nil_iff.mp hnil)
  · have hid : String.toList ∘ String.ofList = id := funext fun _ => String.toList_ofList
    rw [String.toList_intercalate, List.map_map, hid, List.map_id]

theorem constant_eq_error {raw : String} {fault : LiteralFault} (h : constant raw = .error fault) :
    ∃ before part after, constantParts raw = before ++ part :: after ∧
      (∀ other ∈ before, IsConstantPart other) ∧ ¬IsConstantPart part ∧
      fault = .notConstant (String.ofList part) := by
  rw [constant_eq] at h
  rcases bind_eq_error.mp h with h | ⟨_, -, h⟩
  · obtain ⟨before, part, after, hparts, hbefore, hpart⟩ := split_of_mapM_error h
    refine ⟨before, part, after, hparts, fun other hother => ?_, fun hpiece => ?_,
      constantPart_eq_error hpart⟩
    · obtain ⟨piece, hpiece⟩ := hbefore other hother
      exact isConstantPart_iff.mpr ⟨piece, constantPart_eq_ok_iff.mp hpiece⟩
    · obtain ⟨piece, hpiece⟩ := isConstantPart_iff.mp hpiece
      rw [constantPart_eq_ok_iff.mpr hpiece] at hpart
      cases hpart
  · cases h

/-! ### Pieces -/

/-- The pieces of a text between spaced bars. -/
def splitAtBars : List Char → List (List Char)
  | [] => [[]]
  | ' ' :: '|' :: ' ' :: cs => [] :: splitAtBars cs
  | c :: cs => (splitAtBars cs).modifyHead (c :: ·)

theorem splitAtBars_append {cs : List Char} (h : ' ' ∉ cs) (rest : List Char) :
    splitAtBars (cs ++ rest) = (splitAtBars rest).modifyHead (cs ++ ·) := by
  induction cs with
  | nil => exact (congrFun List.modifyHead_id _).symm
  | cons c cs ih =>
    rw [List.mem_cons, not_or] at h
    rw [List.cons_append, splitAtBars, ih h.2, List.modifyHead_modifyHead]
    · rfl
    · rintro ds rfl
      exact absurd rfl h.1

/-- **Pieces without spaces are found again** between spaced bars. -/
theorem splitAtBars_intercalate {pieces : List (List Char)} (hne : pieces ≠ [])
    (h : ∀ piece ∈ pieces, ' ' ∉ piece) :
    splitAtBars (" | ".toList.intercalate pieces) = pieces := by
  induction pieces with
  | nil => exact absurd rfl hne
  | cons piece pieces ih =>
    rw [List.forall_mem_cons] at h
    cases pieces with
    | nil =>
      rw [List.intercalate_singleton, ← List.append_nil piece, splitAtBars_append h.1]
      simp [splitAtBars]
    | cons other pieces =>
      have hbar : ∀ cs, splitAtBars (" | ".toList ++ cs) = [] :: splitAtBars cs := fun _ => rfl
      rw [List.intercalate_cons_cons, List.append_assoc, splitAtBars_append h.1, hbar,
        ih (List.cons_ne_nil _ _) h.2]
      simp

/-- **There is one piece for each part**, in order. -/
theorem forall₂_splitAtBars {raw text : String} (h : constant raw = .ok text) :
    List.Forall₂ RendersTo (constantParts raw) (splitAtBars text.toList) := by
  obtain ⟨pieces, hne, hpieces, htext⟩ := exists_pieces h
  have hspace : ∀ piece ∈ pieces, ' ' ∉ piece := by
    intro piece hpiece hspace
    obtain ⟨part, -, hpart⟩ := exists_of_mem_left hpieces.flip hpiece
    exact absurd (hpart.pieceChars ' ' hspace) (by decide)
  rw [htext, splitAtBars_intercalate hne hspace]
  exact hpieces

/-! ### Words in combinations -/

theorem isBlank_of_isUpper {c : Char} (h : c.isUpper = true) : isBlank c = false := by
  have hrange : 65 ≤ c.toNat ∧ c.toNat ≤ 90 := by
    have hletter : 65 ≤ c.val ∧ c.val ≤ 90 := of_decide_eq_true h
    simpa [UInt32.le_iff_toNat_le] using hletter
  simp only [isBlank, Bool.or_eq_false_iff, Bool.and_eq_false_iff, decide_eq_false_iff_not,
    beq_eq_false_iff_ne]
  omega

/-- **A word of upper-case letters** stands in what is written for a combination exactly if it
stands in the combination. -/
theorem infix_constant_iff {raw text : String} {word : List Char} (h : constant raw = .ok text)
    (hword : word ≠ []) (hupper : ∀ c ∈ word, c.isUpper = true) :
    word <:+: text.toList ↔ word <:+: raw.toList := by
  have hnot : ∀ c : Char, c.isUpper = false → c ∉ word := by
    intro c hc hmem
    rw [hupper c hmem] at hc
    cases hc
  have hblank : ∀ c ∈ word, isBlank c = false := fun c hc => isBlank_of_isUpper (hupper c hc)
  have hpart : ∀ part piece : List Char, RendersTo part piece →
      (word <:+: piece ↔ word <:+: part) := by
    intro part piece hpiece
    cases hpiece with
    | integer h => rfl
    | name h =>
      have hw := hnot 'w' (by decide)
      have hx := hnot 'x' (by decide)
      have hdot := hnot '.' (by decide)
      rw [infix_cons_iff_of_not_mem hword hw, infix_cons_iff_of_not_mem hword hx,
        infix_cons_iff_of_not_mem hword hdot, infix_cons_iff_of_not_mem hword hw,
        infix_cons_iff_of_not_mem hword hx]
  obtain ⟨pieces, -, hpieces, htext⟩ := exists_pieces h
  have hraw : raw.toList = ['|'].intercalate (raw.toList.splitOn '|') :=
    (List.intercalate_splitOn '|').symm
  have hbar : ∀ c ∈ ['|'], c ∉ word := List.forall_mem_singleton.mpr (hnot '|' (by decide))
  have hbars : ∀ c ∈ " | ".toList, c ∉ word := by
    simpa [hnot ' ' (by decide)] using hbar
  rw [htext, infix_intercalate_iff hword (by decide) hbars, hraw,
    infix_intercalate_iff hword (by decide) hbar]
  constructor
  · rintro ⟨piece, hpiece, hinfix⟩
    obtain ⟨part, hmem, hrenders⟩ := exists_of_mem_left hpieces.flip hpiece
    obtain ⟨untrimmed, huntrimmed, rfl⟩ := List.mem_map.mp hmem
    have htrimmed := (hpart _ _ hrenders).mp hinfix
    exact ⟨untrimmed, huntrimmed, (infix_trimChars_iff hword hblank _).mp htrimmed⟩
  · rintro ⟨untrimmed, huntrimmed, hinfix⟩
    have hmem : trimChars untrimmed ∈ constantParts raw := List.mem_map_of_mem huntrimmed
    obtain ⟨piece, hpiece, hrenders⟩ := exists_of_mem_left hpieces hmem
    have htrimmed := (infix_trimChars_iff hword hblank _).mpr hinfix
    exact ⟨piece, hpiece, (hpart _ _ hrenders).mpr htrimmed⟩

/-! ### The grammar -/

/-- **Combinations of constants.** A text is read as a combination exactly if each of its parts
between bars, without the blanks around it, is an integer of 64 bits or the name of a constant. What
is written for it has one piece for each part between spaced bars, in order. Otherwise the fault
quotes the first part that is neither. -/
theorem constant_grammar (raw : String) :
    ((∃ text, constant raw = .ok text) ↔ ∀ part ∈ constantParts raw, IsConstantPart part) ∧
    (∀ text, constant raw = .ok text →
      List.Forall₂ RendersTo (constantParts raw) (splitAtBars text.toList)) ∧
    ∀ fault, constant raw = .error fault → ∃ before part after,
      constantParts raw = before ++ part :: after ∧
      (∀ other ∈ before, IsConstantPart other) ∧ ¬IsConstantPart part ∧
      fault.message = quoted (String.ofList part) ++ " is not a wx constant" := by
  refine ⟨⟨?_, fun hparts => ?_⟩, fun text => forall₂_splitAtBars, fun fault h => ?_⟩
  · rintro ⟨text, h⟩ part hpart
    obtain ⟨piece, -, hpiece⟩ := exists_of_mem_left (forall₂_splitAtBars h) hpart
    exact isConstantPart_iff.mpr ⟨piece, hpiece⟩
  · cases h : constant raw with
    | ok text => exact ⟨text, rfl⟩
    | error fault =>
      obtain ⟨before, part, after, hsplit, -, hpart, -⟩ := constant_eq_error h
      refine absurd (hparts part ?_) hpart
      rw [hsplit]
      exact List.mem_append_right _ List.mem_cons_self
  · obtain ⟨before, part, after, hsplit, hbefore, hpart, rfl⟩ := constant_eq_error h
    exact ⟨before, part, after, hsplit, hbefore, hpart, rfl⟩

/-- A name and an integer are read, and of two parts that are neither the first is blamed. -/
theorem constant_grammar_mixed :
    List.Forall₂ RendersTo (constantParts "wxALIGN_CENTER| +07")
      ["wx.ALIGN_CENTER".toList, "+07".toList] ∧
    ∃ before part after, constantParts "wxALL|wxall|?" = before ++ part :: after ∧
      (∀ other ∈ before, IsConstantPart other) ∧ ¬IsConstantPart part ∧
      "\"wxall\" is not a wx constant" =
        quoted (String.ofList part) ++ " is not a wx constant" := by
  have hread : constant "wxALIGN_CENTER| +07" = .ok "wx.ALIGN_CENTER | +07" := by decide +kernel
  have hfault : constant "wxALL|wxall|?" = .error (.notConstant "wxall") := by decide +kernel
  have hmessage : (LiteralFault.notConstant "wxall").message =
      "\"wxall\" is not a wx constant" := by decide +kernel
  refine ⟨(constant_grammar _).2.1 _ hread, ?_⟩
  rw [← hmessage]
  exact (constant_grammar _).2.2 _ hfault

/-! ### The value of integers -/

theorem RendersTo.eq_of_isInt64 {part piece : List Char} {i : Int} (h : RendersTo part piece)
    (hpart : IsInt64 part i) : piece = part := by
  cases h with
  | integer h => rfl
  | name h => exact absurd hpart.1 not_isDecimal_name

/-- **Integers in combinations.** An integer is written as it stands, and what is written is a
constant of the same value exactly if no zero stands in front of its digits, or its value is a
single octal digit. -/
theorem constant_keeps_value_iff {raw text : String} (h : constant raw = .ok text) :
    List.Forall₂ (fun part piece => ∀ i, IsInt64 part i → piece = part ∧
        (integerConstant piece = some i ↔
          (withoutSign part).head? ≠ some '0' ∨ i.natAbs < 8))
      (constantParts raw) (splitAtBars text.toList) := by
  refine (forall₂_splitAtBars h).imp fun part piece hpiece i hi => ?_
  obtain rfl := hpiece.eq_of_isInt64 hi
  exact ⟨rfl, integerConstant_eq_iff hi.1⟩

/-- Integers keep their values without zeros in front, and single octal digits also with them. -/
theorem constant_keeps_value_mixed :
    constant "wxALL|-16|+007" = .ok "wx.ALL | -16 | +007" ∧
    IsInt64 "-16".toList (-16) ∧ integerConstant "-16".toList = some (-16) ∧
    IsInt64 "+007".toList 7 ∧ integerConstant "+007".toList = some 7 := by
  have hread : constant "wxALL|-16|+007" = .ok "wx.ALL | -16 | +007" := by decide +kernel
  have hparts : constantParts "wxALL|-16|+007" =
      ["wxALL".toList, "-16".toList, "+007".toList] := by decide +kernel
  have hpieces : splitAtBars "wx.ALL | -16 | +007".toList =
      ["wx.ALL".toList, "-16".toList, "+007".toList] := by decide +kernel
  have hsixteen : IsInt64 "-16".toList (-16) := readInt_eq_ok_iff.mp (by decide +kernel)
  have hseven : IsInt64 "+007".toList 7 := readInt_eq_ok_iff.mp (by decide +kernel)
  have hvalues := constant_keeps_value_iff hread
  rw [hparts, hpieces, List.forall₂_cons, List.forall₂_cons, List.forall₂_cons] at hvalues
  obtain ⟨-, hnegative, hzeros, -⟩ := hvalues
  exact ⟨hread, hsixteen, (hnegative _ hsixteen).2.mpr (Or.inl (by decide +kernel)), hseven,
    (hzeros _ hseven).2.mpr (Or.inr (by decide))⟩

/-- With a zero in front, ten is written as the octal digits of eight, and nine is written as no
literal. -/
theorem constant_leadingZero :
    constant "010|09" = .ok "010 | 09" ∧
    IsInt64 "010".toList 10 ∧ integerConstant "010".toList = some 8 ∧
    IsInt64 "09".toList 9 ∧ integerConstant "09".toList = none ∧
    ¬List.Forall₂ (fun part piece => ∀ i, IsInt64 part i → integerConstant piece = some i)
      (constantParts "010|09") (splitAtBars "010 | 09".toList) := by
  have hten : IsInt64 "010".toList 10 := readInt_eq_ok_iff.mp (by decide +kernel)
  have hnine : IsInt64 "09".toList 9 := readInt_eq_ok_iff.mp (by decide +kernel)
  have hoctal : integerConstant "010".toList = some 8 := by decide +kernel
  have hparts : constantParts "010|09" = ["010".toList, "09".toList] := by decide +kernel
  have hpieces : splitAtBars "010 | 09".toList = ["010".toList, "09".toList] := by decide +kernel
  refine ⟨by decide +kernel, hten, hoctal, hnine, by decide +kernel, fun h => ?_⟩
  rw [hparts, hpieces, List.forall₂_cons, hoctal] at h
  exact absurd (h.1 10 hten) (by decide)

end GladeGo.Go
