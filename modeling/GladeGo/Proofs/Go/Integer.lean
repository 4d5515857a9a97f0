import GladeGo.Proofs.Files.Path
import GladeGo.Proofs.Go.IntegerLiteral
import GladeGo.Proofs.Run
import Mathlib.Data.List.Induction

/-! # Integers and sizes

Which texts are read as integers and as sizes, and what is written for them. Every integer has one
canonical numeral (`isCanonical_iff`): digits without a zero in front are written again for the
number that they write (`natDigits_ofDigitChars`). So what is written for an integer tells which
one it is, and it is its own canonical numeral when it is read again (`integer_of_integer`). A size
is two integers with one comma between them (`size_eq_ok_iff`), and of the parts that are no integers
the first one is to blame, however many parts there are (`size_eq_error`). -/

namespace GladeGo.Go

open GladeGo.Text
open FilePath (not_mem_of_mem_splitOn)

/-! ### Canonical numerals -/

/-- A text is the canonical numeral of an integer: it writes the integer without a plus sign and
without zeros in front, and zero without a sign. -/
structure IsCanonical (cs : List Char) (i : Int) : Prop where
  decimal : IsDecimal cs i
  no_plus : cs.head? ≠ some '+'
  no_zeros : (withoutSign cs).head? = some '0' → cs = ['0']

theorem digitChar_of_isDigit {c : Char} (h : c.isDigit = true) :
    Nat.digitChar (c.toNat - '0'.toNat) = c := by
  have htable : ∀ d < 10, Nat.digitChar d = Char.ofNat (d + '0'.toNat) := by decide
  have hle : '0'.toNat ≤ c.toNat := by
    simp only [Char.isDigit, Bool.and_eq_true, decide_eq_true_eq] at h
    exact h.1
  rw [htable _ (digitValue_of_isDigit h).2, Nat.sub_add_cancel hle, Char.ofNat_toNat]

/-- **Digits without a zero in front** are the digits of the number that they write. -/
theorem natDigits_ofDigitChars {cs : List Char} (h : IsDigits cs) (hzero : cs.head? ≠ some '0') :
    natDigits (Nat.ofDigitChars 10 cs 0) = cs := by
  obtain ⟨hne, hdigits⟩ := h
  induction cs using List.reverseRecOn with
  | nil => exact absurd rfl hne
  | append_singleton cs c ih =>
    have hc : c.isDigit = true := hdigits c (by simp)
    have hchar := digitChar_of_isDigit hc
    have hlt := (digitValue_of_isDigit hc).2
    rw [Nat.ofDigitChars_append, Nat.ofDigitChars_cons, Nat.ofDigitChars_nil]
    generalize c.toNat - '0'.toNat = d at hchar hlt
    rcases cs with _ | ⟨first, cs⟩
    · rw [Nat.ofDigitChars_nil, Nat.mul_zero, Nat.zero_add, natDigits,
        Nat.toDigits_of_lt_base hlt, hchar]
      rfl
    · have hrest := ih (by simpa using hzero) (List.cons_ne_nil _ _) fun e he =>
        hdigits e (List.mem_append_left _ he)
      -- The digits before the last one do not write zero: they would begin with a zero.
      have hpos : 0 < Nat.ofDigitChars 10 (first :: cs) 0 := by
        refine Nat.pos_of_ne_zero fun heq => hzero ?_
        rw [heq] at hrest
        have hfirst := congrArg List.head? hrest
        simpa [natDigits] using hfirst.symm
      rw [natDigits, ← Nat.toDigits_append_toDigits (by omega) hpos hlt,
        Nat.toDigits_of_lt_base hlt, hchar]
      exact congrArg (· ++ [c]) hrest

theorem isCanonical_intNumeral (i : Int) : IsCanonical (intNumeral i) i := by
  have hdigits := isDigits_natDigits i.natAbs
  refine ⟨isDecimal_intNumeral i, fun hplus => ?_, fun hzero => ?_⟩
  · have hmem : '+' ∈ intNumeral i := List.mem_of_mem_head? hplus
    cases i with
    | ofNat n => exact absurd (hdigits.2 _ hmem) (by decide)
    | negSucc n =>
      rcases List.mem_cons.mp hmem with hsign | hmem
      · exact absurd hsign (by decide)
      · exact absurd (hdigits.2 _ hmem) (by decide)
  · rw [withoutSign_intNumeral] at hzero
    have hi : i = 0 := by
      by_contra hne
      exact head?_natDigits (by omega) hzero
    rw [hi]
    decide

/-- **Every integer has one canonical numeral.** -/
theorem isCanonical_iff {cs : List Char} {i : Int} : IsCanonical cs i ↔ cs = intNumeral i := by
  refine ⟨fun ⟨hdecimal, hplus, hzeros⟩ => ?_, fun h => h ▸ isCanonical_intNumeral i⟩
  cases hdecimal with
  | unsigned h =>
    rw [(withoutSign_of_isDigits h).1] at hzeros
    by_cases hzero : cs.head? = some '0'
    · rw [hzeros hzero]
      decide
    · exact (natDigits_ofDigitChars h hzero).symm
  | plus h => exact absurd rfl hplus
  | @minus digits h =>
    have hzero : digits.head? ≠ some '0' := fun hzero => absurd (hzeros hzero) (by simp)
    have hrest := natDigits_ofDigitChars h hzero
    obtain ⟨n, hn⟩ : ∃ n, Nat.ofDigitChars 10 digits 0 = n + 1 := by
      refine Nat.exists_eq_add_one.mpr (Nat.pos_of_ne_zero fun heq => hzero ?_)
      rw [← hrest, heq]
      decide
    rw [hn] at hrest ⊢
    exact congrArg ('-' :: ·) hrest.symm

/-! ### Integers -/

theorem trimChars_of_not_blank {cs : List Char} (h : ∀ c ∈ cs, isBlank c = false) :
    trimChars cs = cs := by
  have hdrop : ∀ ds : List Char, (∀ c ∈ ds, isBlank c = false) → ds.dropWhile isBlank = ds := by
    intro ds hds
    cases ds with
    | nil => rfl
    | cons d ds => rw [List.dropWhile_cons_of_neg (by simp [hds d List.mem_cons_self])]
  rw [trimChars, hdrop cs h, hdrop cs.reverse fun c hc => h c (List.mem_reverse.mp hc),
    List.reverse_reverse]

/-- A decimal integer holds neither blanks nor commas. -/
theorem not_blank_of_isDecimal {cs : List Char} {i : Int} (h : IsDecimal cs i) :
    ∀ c ∈ cs, isBlank c = false ∧ c ≠ ',' := by
  intro c hc
  rcases isDigit_or_sign_of_isDecimal h c hc with hdigit | rfl | rfl
  · have htable : ∀ d < 10, isBlank (Nat.digitChar d) = false ∧ Nat.digitChar d ≠ ',' := by decide
    have hchar := htable _ (digitValue_of_isDigit hdigit).2
    rwa [digitChar_of_isDigit hdigit] at hchar
  · decide
  · decide

theorem integer_eq_ok_iff {raw text : String} : integer raw = .ok text ↔
    ∃ i, IsInt64 (trimChars raw.toList) i ∧ text = showInt i := by
  simp only [← readInt_eq_ok_iff, integer, readInteger]
  cases readInt (trimChars raw.toList) with
  | error fault => simp
  | ok i => simp [eq_comm]

theorem isCanonical_showInt {text : String} {i : Int} :
    IsCanonical text.toList i ↔ text = showInt i := by
  rw [isCanonical_iff, showInt, ← String.toList_inj, String.toList_ofList]

theorem isInt64_trim_showInt {i : Int} (h : -2 ^ 63 ≤ i ∧ i < 2 ^ 63) :
    IsInt64 (trimChars (showInt i).toList) i := by
  have hdecimal := isDecimal_intNumeral i
  rw [showInt, String.toList_ofList,
    trimChars_of_not_blank fun c hc => (not_blank_of_isDecimal hdecimal c hc).1]
  exact ⟨hdecimal, h⟩

/-- **What is written for an integer is written for itself.** -/
theorem integer_of_integer {raw text : String} (h : integer raw = .ok text) :
    integer text = .ok text := by
  obtain ⟨i, ⟨-, hrange⟩, rfl⟩ := integer_eq_ok_iff.mp h
  exact integer_eq_ok_iff.mpr ⟨i, isInt64_trim_showInt hrange, rfl⟩

theorem showInt_inj {i j : Int} (h : showInt i = showInt j) : i = j := by
  have hnumeral := String.ofList_injective h
  have hvalue := integerConstant_intNumeral i
  rw [hnumeral, integerConstant_intNumeral] at hvalue
  exact (Option.some.inj hvalue).symm

/-- A text writes one integer. -/
theorem isInt64_unique {cs : List Char} {i j : Int} (h : IsInt64 cs i) (h' : IsInt64 cs j) :
    i = j := by
  rw [← readInt_eq_ok_iff] at h h'
  exact Except.ok.inj (h.symm.trans h')

/-- **Integers are the same** exactly if the same is written for them. -/
theorem integer_eq_iff {raw raw' text text' : String} {i j : Int} (h : integer raw = .ok text)
    (h' : integer raw' = .ok text') (hi : IsInt64 (trimChars raw.toList) i)
    (hj : IsInt64 (trimChars raw'.toList) j) : text = text' ↔ i = j := by
  obtain ⟨i', hi', rfl⟩ := integer_eq_ok_iff.mp h
  obtain ⟨j', hj', rfl⟩ := integer_eq_ok_iff.mp h'
  rw [isInt64_unique hi hi', isInt64_unique hj hj']
  exact ⟨showInt_inj, fun heq => congrArg showInt heq⟩

/-! ### Sizes -/

/-- The parts of a text between commas. -/
def sizeParts (raw : String) : List String := (raw.toList.splitOn ',').map String.ofList

/-- The Go expression `wx.NewSize(w, h)`. -/
def sizeCall (width height : String) : String := "wx.NewSize(" ++ (width ++ ", " ++ height) ++ ")"

theorem sizeParts_eq_pair_iff {raw width height : String} : sizeParts raw = [width, height] ↔
    raw = width ++ "," ++ height ∧ ',' ∉ width.toList ∧ ',' ∉ height.toList := by
  have hcomma : (width ++ "," ++ height).toList = width.toList ++ ',' :: height.toList := by simp
  constructor
  · intro h
    have hlists : raw.toList.splitOn ',' = [width.toList, height.toList] := by
      refine List.map_injective_iff.mpr (fun _ _ => String.ofList_injective) ?_
      rw [← sizeParts, h]
      simp
    have hnot : ∀ part ∈ raw.toList.splitOn ',', ',' ∉ part :=
      fun part hpart => not_mem_of_mem_splitOn hpart
    refine ⟨?_, hnot _ (by simp [hlists]), hnot _ (by simp [hlists])⟩
    have hjoin : [','].intercalate (raw.toList.splitOn ',') = raw.toList :=
      List.intercalate_splitOn ','
    rw [← String.toList_inj, hcomma, ← hjoin, hlists]
    simp [List.intercalate_cons_cons]
  · rintro ⟨rfl, hwidth, hheight⟩
    rw [sizeParts, hcomma, List.splitOn_append_cons_self_of_not_mem hwidth,
      List.splitOn_eq_singleton hheight]
    simp

theorem size_eq (raw : String) : size raw =
    match (sizeParts raw).mapM fun part => readInteger part.toList with
    | .error fault => .error (.sizeNotInteger fault)
    | .ok [width, height] => .ok (sizeCall (showInt width) (showInt height))
    | .ok values => .error (.sizeCount values.length) := by
  have hparts : (sizeParts raw).mapM (fun part => readInteger part.toList) =
      (raw.toList.splitOn ',').mapM readInteger := by
    rw [sizeParts, List.mapM_map]
    simp [Function.comp_def]
  have hcall : ∀ width height : String,
      "wx.NewSize(" ++ width ++ ", " ++ height ++ ")" = sizeCall width height := by
    intro width height
    simp only [sizeCall, String.append_assoc]
  rw [hparts, size]
  cases (raw.toList.splitOn ',').mapM readInteger with
  | error fault => rfl
  | ok values =>
    match values with
    | [] => rfl
    | [_] => rfl
    | [width, height] => exact congrArg Except.ok (hcall _ _)
    | _ :: _ :: _ :: _ => rfl

theorem integer_eq_of_readInteger {raw : String} {i : Int} (h : readInteger raw.toList = .ok i) :
    integer raw = .ok (showInt i) := by
  rw [integer, h]

theorem readInteger_of_integer {raw text : String} (h : integer raw = .ok text) :
    ∃ i, readInteger raw.toList = .ok i ∧ text = showInt i := by
  obtain ⟨i, hi, rfl⟩ := integer_eq_ok_iff.mp h
  exact ⟨i, readInt_eq_ok_iff.mpr hi, rfl⟩

/-- **The texts that are read as sizes** are two integers with one comma between them. -/
theorem size_eq_ok_iff {raw text : String} : size raw = .ok text ↔
    ∃ left right width height, raw = left ++ "," ++ right ∧
      ',' ∉ left.toList ∧ ',' ∉ right.toList ∧
      integer left = .ok width ∧ integer right = .ok height ∧ text = sizeCall width height := by
  rw [size_eq]
  constructor
  · intro h
    split at h
    · cases h
    · rename_i w h' hvalues
      cases h
      have hforall := mapM_eq_ok_iff.mp hvalues
      simp only [List.forall₂_cons_right_iff, List.forall₂_nil_right_iff] at hforall
      obtain ⟨left, _, hleft, ⟨right, _, hright, rfl, rfl⟩, hparts⟩ := hforall
      obtain ⟨hraw, hcomma, hcomma'⟩ := sizeParts_eq_pair_iff.mp hparts
      exact ⟨left, right, _, _, hraw, hcomma, hcomma', integer_eq_of_readInteger hleft,
        integer_eq_of_readInteger hright, rfl⟩
    · cases h
  · rintro ⟨left, right, width, height, hraw, hcomma, hcomma', hleft, hright, rfl⟩
    obtain ⟨w, hw, rfl⟩ := readInteger_of_integer hleft
    obtain ⟨h, hh, rfl⟩ := readInteger_of_integer hright
    have hvalues : [left, right].mapM (fun part => readInteger part.toList) = .ok [w, h] :=
      mapM_eq_ok_iff.mpr (.cons hw (.cons hh .nil))
    rw [sizeParts_eq_pair_iff.mpr ⟨hraw, hcomma, hcomma'⟩, hvalues]

/-- **What is written for a size** holds, in its brackets, the size that it is written for. -/
theorem size_of_size {raw text : String} (h : size raw = .ok text) :
    ∃ inner, text = "wx.NewSize(" ++ inner ++ ")" ∧ size inner = .ok text := by
  obtain ⟨left, right, width, height, -, -, -, hleft, hright, rfl⟩ := size_eq_ok_iff.mp h
  have hcomma : ∀ {part value : String}, integer part = .ok value → ',' ∉ value.toList := by
    intro part value hpart hmem
    obtain ⟨i, -, rfl⟩ := integer_eq_ok_iff.mp hpart
    rw [showInt, String.toList_ofList] at hmem
    exact (not_blank_of_isDecimal (isDecimal_intNumeral i) _ hmem).2 rfl
  have hspace : integer (" " ++ height) = integer height := by
    have hblank : trimChars (" " ++ height).toList = trimChars height.toList := by
      rw [String.toList_append, show " ".toList = [' '] by decide, trimChars,
        List.singleton_append, List.dropWhile_cons_of_pos (by decide)]
      rfl
    rw [integer, readInteger, hblank]
    rfl
  have hinner : width ++ ", " ++ height = width ++ "," ++ (" " ++ height) := by
    rw [← String.toList_inj]
    simp
  refine ⟨width ++ ", " ++ height, rfl, size_eq_ok_iff.mpr ⟨width, " " ++ height, width, height,
    hinner, hcomma hleft, ?_, integer_of_integer hleft, ?_, rfl⟩⟩
  · simpa using hcomma hright
  · rw [hspace]
    exact integer_of_integer hright

/-- **The first part that is no integer is to blame**, whatever the number of parts. -/
theorem size_of_not_integer {raw part : String} {before after : List String} {cause : LiteralFault}
    (hparts : sizeParts raw = before ++ part :: after)
    (hbefore : ∀ other ∈ before, ∃ text, integer other = .ok text)
    (hpart : integer part = .error cause) :
    ∃ fault, size raw = .error fault ∧
      fault.message = "size must be two integers: " ++ cause.message := by
  cases hread : readInteger part.toList with
  | ok i =>
    rw [integer_eq_of_readInteger hread] at hpart
    cases hpart
  | error numeral =>
    obtain rfl : LiteralFault.notInteger numeral = cause := by
      rw [integer, hread] at hpart
      exact Except.error.inj hpart
    have hvalues : (sizeParts raw).mapM (fun part => readInteger part.toList) = .error numeral := by
      rw [hparts]
      refine mapM_eq_error_of_split (fun other hother => ?_) hread
      obtain ⟨text, htext⟩ := hbefore other hother
      obtain ⟨i, hi, -⟩ := readInteger_of_integer htext
      exact ⟨i, hi⟩
    exact ⟨.sizeNotInteger numeral, by rw [size_eq, hvalues], rfl⟩

theorem size_of_wrong_count {raw : String}
    (hparts : ∀ part ∈ sizeParts raw, ∃ text, integer part = .ok text)
    (hcount : (sizeParts raw).length ≠ 2) :
    ∃ fault, size raw = .error fault ∧
      fault.message = "size must have two components, found " ++
        showNat (sizeParts raw).length := by
  cases hread : (sizeParts raw).mapM fun part => readInteger part.toList with
  | error numeral =>
    obtain ⟨before, part, after, hsplit, -, hpart⟩ := split_of_mapM_error hread
    obtain ⟨text, htext⟩ := hparts part (hsplit ▸ List.mem_append_right _ List.mem_cons_self)
    obtain ⟨i, hi, -⟩ := readInteger_of_integer htext
    rw [hi] at hpart
    cases hpart
  | ok values =>
    have hlength := (mapM_eq_ok_iff.mp hread).length_eq
    refine ⟨.sizeCount values.length, ?_, by rw [hlength]; rfl⟩
    rw [size_eq, hread]
    split
    · rename_i heq
      cases heq
    · rename_i heq
      cases heq
      exact absurd hlength hcount
    · rename_i heq
      cases heq
      rfl

/-! ### Exactness -/

/-- **Integers and sizes are exact and canonical.** A text is read as an integer exactly if, between
blanks, it writes an integer of 64 bits, and the canonical numeral of that integer is written for
it. What is written for an integer is written for itself, and the same is written for two integers
exactly if they are the same. A text is read as a size exactly if it has one comma, with an integer
on either side, and what is then written holds, in its brackets, the same size. Of the parts of
a text between commas the first one that is no integer is to blame, whatever their number. -/
theorem integers_sizes_exact (raw : String) :
    ((∃ text, integer raw = .ok text) ↔ ∃ i, IsInt64 (trimChars raw.toList) i) ∧
    (∀ text, integer raw = .ok text ↔
      ∃ i, IsInt64 (trimChars raw.toList) i ∧ IsCanonical text.toList i) ∧
    (∀ text, integer raw = .ok text → integer text = .ok text) ∧
    (∀ raw' text text' i i', integer raw = .ok text → integer raw' = .ok text' →
      IsInt64 (trimChars raw.toList) i → IsInt64 (trimChars raw'.toList) i' →
      (text = text' ↔ i = i')) ∧
    (∀ text, size raw = .ok text ↔ ∃ left right width height, raw = left ++ "," ++ right ∧
      ',' ∉ left.toList ∧ ',' ∉ right.toList ∧ integer left = .ok width ∧
      integer right = .ok height ∧ text = "wx.NewSize(" ++ (width ++ ", " ++ height) ++ ")") ∧
    (∀ text, size raw = .ok text →
      ∃ inner, text = "wx.NewSize(" ++ inner ++ ")" ∧ size inner = .ok text) ∧
    (∀ before part after cause, sizeParts raw = before ++ part :: after →
      (∀ other ∈ before, ∃ text, integer other = .ok text) → integer part = .error cause →
      ∃ fault, size raw = .error fault ∧
        fault.message = "size must be two integers: " ++ cause.message) ∧
    ((∀ part ∈ sizeParts raw, ∃ text, integer part = .ok text) → (sizeParts raw).length ≠ 2 →
      ∃ fault, size raw = .error fault ∧
        fault.message = "size must have two components, found " ++
          showNat (sizeParts raw).length) := by
  refine ⟨?_, fun text => ?_, fun text => integer_of_integer, fun _ _ _ _ _ => integer_eq_iff,
    fun text => size_eq_ok_iff, fun text => size_of_size, fun _ _ _ _ => size_of_not_integer,
    size_of_wrong_count⟩
  · simp only [integer_eq_ok_iff]
    exact ⟨fun ⟨_, i, hi, _⟩ => ⟨i, hi⟩, fun ⟨i, hi⟩ => ⟨_, i, hi, rfl⟩⟩
  · simp only [integer_eq_ok_iff, isCanonical_showInt]

/-- The least integer of 64 bits is read, zeros in front of it and blanks around it included, and of
three parts the second one is to blame. -/
theorem integers_sizes_exact_leastInteger :
    (∃ i, IsInt64 (trimChars " -0009223372036854775808\n".toList) i ∧
      IsCanonical "-9223372036854775808".toList i) ∧
    integer "-9223372036854775808" = .ok "-9223372036854775808" ∧
    (∃ inner, "wx.NewSize(7, 0)" = "wx.NewSize(" ++ inner ++ ")" ∧
      size inner = .ok "wx.NewSize(7, 0)") ∧
    ∃ fault, size "1,9223372036854775808,?" = .error fault ∧
      fault.message = "size must be two integers: " ++
        (LiteralFault.notInteger .tooLarge).message := by
  have hleast : integer " -0009223372036854775808\n" = .ok "-9223372036854775808" := by
    decide +kernel
  have hsize : size " +007 ,-0" = .ok "wx.NewSize(7, 0)" := by decide +kernel
  have hone : integer "1" = .ok "1" := by decide +kernel
  refine ⟨((integers_sizes_exact _).2.1 _).mp hleast, (integers_sizes_exact _).2.2.1 _ hleast,
    (integers_sizes_exact " +007 ,-0").2.2.2.2.2.1 _ hsize, ?_⟩
  refine (integers_sizes_exact _).2.2.2.2.2.2.1 ["1"] "9223372036854775808" ["?"] _
    (by decide +kernel) (fun other hother => ?_) (by decide +kernel)
  exact ⟨"1", List.mem_singleton.mp hother ▸ hone⟩

end GladeGo.Go
