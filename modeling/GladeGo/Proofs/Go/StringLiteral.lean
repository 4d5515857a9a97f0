import GladeGo.Go.Literal
import Mathlib.Algebra.Ring.Nat
import Mathlib.Data.List.Basic

/-! # Go string literals read back

`readString` is the lexer of the Go language for its interpreted string literals, with all their
escapes; the value of a literal is a sequence of bytes. What `Go.string` writes is read back: the
lexer stops behind the closing quote, whatever follows, and the value is the text in UTF-8
(`readBody_stringChar` for one character, by the five ways in which it is written). -/

namespace GladeGo.Go

open GladeGo.Text (digitValue paddedDigits)

/-! ### The lexer -/

/-- The character that a backslash and one letter stand for. -/
def letterEscape : Char → Option Char
  | 'a' => some '\x07'
  | 'b' => some '\x08'
  | 'f' => some '\x0c'
  | 'n' => some '\n'
  | 'r' => some '\r'
  | 't' => some '\t'
  | 'v' => some '\x0b'
  | '\\' => some '\\'
  | '"' => some '"'
  | _ => none

/-- Reads `width` digits of the given base after a number `n` read so far: the number, and what
follows the digits. -/
def readCode (base : Nat) : Nat → Nat → List Char → Option (Nat × List Char)
  | 0, n, cs => some (n, cs)
  | _ + 1, _, [] => none
  | width + 1, n, c :: cs =>
    match digitValue c with
    | none => none
    | some d => if d < base then readCode base width (n * base + d) cs else none

/-- The bytes of a character in UTF-8. -/
def charBytes (c : Char) : ByteArray := (String.utf8EncodeChar c).toByteArray

/-- The character with the given code point. Surrogates are no characters. -/
def charOfCode (code : Nat) : Option Char :=
  if h : code.isValidChar then some (Char.ofNatAux code h) else none

/-- Reads an escape that begins before `cs` with its backslash: the bytes that it stands for, and
what follows it. -/
def readEscape (cs : List Char) : Option (ByteArray × List Char) :=
  match cs with
  | [] => none
  | 'x' :: cs => do
    let (code, rest) ← readCode 16 2 0 cs
    some ([UInt8.ofNat code].toByteArray, rest)
  | 'u' :: cs => do
    let (code, rest) ← readCode 16 4 0 cs
    let char ← charOfCode code
    some (charBytes char, rest)
  | 'U' :: cs => do
    let (code, rest) ← readCode 16 8 0 cs
    let char ← charOfCode code
    some (charBytes char, rest)
  | c :: cs =>
    match letterEscape c with
    | some char => some (charBytes char, cs)
    | none => do
      let (code, rest) ← readCode 8 3 0 (c :: cs)
      if code < 256 then some ([UInt8.ofNat code].toByteArray, rest) else none

theorem readCode_length {base width n code : Nat} {cs rest : List Char}
    (h : readCode base width n cs = some (code, rest)) : rest.length ≤ cs.length := by
  induction width generalizing n cs with
  | zero => cases h; exact Nat.le_refl _
  | succ width ih =>
    cases cs with
    | nil => cases h
    | cons c cs =>
      unfold readCode at h
      split at h
      · cases h
      · split at h
        · have := ih h
          simp only [List.length_cons]
          omega
        · cases h

theorem readEscape_length {cs rest : List Char} {bytes : ByteArray}
    (h : readEscape cs = some (bytes, rest)) : rest.length ≤ cs.length := by
  unfold readEscape at h
  split at h
  · cases h
  · obtain ⟨⟨code, rest'⟩, hcode, h⟩ := Option.bind_eq_some_iff.mp h
    cases h
    exact Nat.le_succ_of_le (readCode_length hcode)
  · obtain ⟨⟨code, rest'⟩, hcode, h⟩ := Option.bind_eq_some_iff.mp h
    obtain ⟨char, -, h⟩ := Option.bind_eq_some_iff.mp h
    cases h
    exact Nat.le_succ_of_le (readCode_length hcode)
  · obtain ⟨⟨code, rest'⟩, hcode, h⟩ := Option.bind_eq_some_iff.mp h
    obtain ⟨char, -, h⟩ := Option.bind_eq_some_iff.mp h
    cases h
    exact Nat.le_succ_of_le (readCode_length hcode)
  · split at h
    · cases h
      exact Nat.le_succ _
    · obtain ⟨⟨code, rest'⟩, hcode, h⟩ := Option.bind_eq_some_iff.mp h
      dsimp only at h
      split at h
      · cases h
        exact readCode_length hcode
      · cases h

/-- Whether a character may not stand in a literal as it is: a line break, which must not occur in
it, and the two characters that no source file may hold. -/
def isForbidden (c : Char) : Bool := c == '\n' || c == '\x00' || c == '\ufeff'

/-- Reads the rest of a literal behind its opening quote: its value, and what follows its closing
quote. -/
def readBody (cs : List Char) : Option (ByteArray × List Char) :=
  match cs with
  | [] => none
  | '"' :: cs => some (ByteArray.empty, cs)
  | '\\' :: cs =>
    match _hescape : readEscape cs with
    | none => none
    | some (bytes, rest) => (readBody rest).map fun (more, rest) => (bytes ++ more, rest)
  | c :: cs =>
    if isForbidden c then none
    else (readBody cs).map fun (more, rest) => (charBytes c ++ more, rest)
termination_by cs.length
decreasing_by
  · have := readEscape_length _hescape
    simp only [List.length_cons]
    omega
  · simp only [List.length_cons]
    omega

/-- Reads the interpreted string literal that a text begins with: its value, and what follows it. -/
def readString : List Char → Option (ByteArray × List Char)
  | '"' :: cs => readBody cs
  | _ => none

/-! ### Codes -/

theorem readCode_append {base width more n : Nat} {cs : List Char} :
    readCode base (width + more) n cs =
      (readCode base width n cs).bind fun (code, rest) => readCode base more code rest := by
  induction width generalizing n cs with
  | zero => simp [readCode]
  | succ width ih =>
    rw [Nat.add_right_comm]
    cases cs with
    | nil => rfl
    | cons c cs =>
      simp only [readCode]
      cases digitValue c with
      | none => rfl
      | some d =>
        dsimp only
        split
        · exact ih
        · rfl

theorem digitValue_digitChar : ∀ d < 16, digitValue (Nat.digitChar d) = some d := by decide

/-- The digits of a number are read back as that number. -/
theorem readCode_toDigits (m n : Nat) (cs : List Char) :
    readCode 16 (Nat.toDigits 16 m).length n (Nat.toDigits 16 m ++ cs) =
      some (n * 16 ^ (Nat.toDigits 16 m).length + m, cs) := by
  induction m using Nat.strongRecOn generalizing n cs with
  | ind m ih =>
    have hstep : ∀ k d, d < 16 →
        readCode 16 1 k (Nat.digitChar d :: cs) = some (k * 16 + d, cs) := by
      intro k d hd
      simp [readCode, digitValue_digitChar d hd, hd]
    rw [Nat.toDigits_eq_if (by omega)]
    split
    · rename_i hm
      exact hstep n m hm
    · rename_i hm
      have hmod := Nat.mod_lt m (show 16 > 0 by omega)
      rw [List.length_append, List.append_assoc, readCode_append, ih (m / 16) (by omega)]
      simp only [Option.bind_some, List.length_singleton, List.singleton_append]
      rw [hstep _ _ hmod, Nat.pow_succ, Nat.add_mul, Nat.mul_assoc, Nat.add_assoc,
        Nat.div_add_mod']

theorem readCode_zeros (zeros width : Nat) (cs : List Char) :
    readCode 16 (zeros + width) 0 (List.replicate zeros '0' ++ cs) = readCode 16 width 0 cs := by
  induction zeros with
  | zero => simp
  | succ zeros ih =>
    rw [Nat.add_right_comm, List.replicate_succ, List.cons_append]
    exact ih

/-- A code that is padded to its width is read back. -/
theorem readCode_paddedDigits {width m : Nat} (hwidth : 0 < width) (hm : m < 16 ^ width)
    (cs : List Char) : readCode 16 width 0 (paddedDigits 16 width m ++ cs) = some (m, cs) := by
  have hlength := (Nat.length_toDigits_le_iff (b := 16) (by omega) hwidth).mpr hm
  unfold paddedDigits
  dsimp only
  generalize hzeros : width - (Nat.toDigits 16 m).length = zeros
  obtain rfl : width = zeros + (Nat.toDigits 16 m).length := by omega
  rw [List.append_assoc, readCode_zeros, readCode_toDigits, Nat.zero_mul, Nat.zero_add]

theorem charOfCode_toNat (c : Char) : charOfCode c.toNat = some c := by
  have hvalid : c.toNat.isValidChar := c.valid
  rw [charOfCode, dif_pos hvalid]
  rfl

/-! ### Characters -/

theorem toNat_lt_of_isCoded {c : Char} (h : isCoded c = true) : c.toNat < 16 ^ 4 := by
  simp only [isCoded, Bool.or_eq_true, Bool.and_eq_true, decide_eq_true_eq, beq_iff_eq] at h
  omega

theorem not_isForbidden {c : Char} (hcoded : isCoded c = false) : isForbidden c = false := by
  cases hforbidden : isForbidden c with
  | false => rfl
  | true =>
    simp only [isForbidden, Bool.or_eq_true, beq_iff_eq] at hforbidden
    rcases hforbidden with (rfl | rfl) | rfl <;> exact absurd hcoded (by decide)

/-- Reading goes on behind an escape. -/
theorem readBody_escape {cs rest : List Char} {bytes : ByteArray}
    (h : readEscape cs = some (bytes, rest)) : readBody ('\\' :: cs) =
      (readBody rest).map fun (more, rest) => (bytes ++ more, rest) := by
  rw [readBody]
  split
  · rename_i hnone
    rw [hnone] at h
    cases h
  · rename_i hsome
    rw [hsome] at h
    cases h
    rfl

theorem readBody_plain {c : Char} (hquote : c ≠ '"') (hslash : c ≠ '\\')
    (hcoded : isCoded c = false) (cs : List Char) : readBody (c :: cs) =
      (readBody cs).map fun (more, rest) => (charBytes c ++ more, rest) := by
  rw [readBody, if_neg (by simp [not_isForbidden hcoded])]
  · exact fun h => hquote h
  · exact fun h => hslash h

/-- **A character is read back**, in each of the ways in which it is written. -/
theorem readBody_stringChar (c : Char) (cs : List Char) :
    readBody (stringChar c ++ cs) =
      (readBody cs).map fun (more, rest) => (charBytes c ++ more, rest) := by
  unfold stringChar
  split_ifs with hquote hslash hline hreturn htab hcoded
  · subst hquote
    exact readBody_escape rfl
  · subst hslash
    exact readBody_escape rfl
  · subst hline
    exact readBody_escape rfl
  · subst hreturn
    exact readBody_escape rfl
  · subst htab
    exact readBody_escape rfl
  · change readBody ('\\' :: 'u' :: (paddedDigits 16 4 c.toNat ++ cs)) = _
    have hcode := readCode_paddedDigits (by omega) (toNat_lt_of_isCoded hcoded) cs
    refine readBody_escape ?_
    rw [readEscape, hcode]
    simp only [Option.bind_eq_bind, Option.bind_some, charOfCode_toNat]
  · rw [Bool.not_eq_true] at hcoded
    exact readBody_plain hquote hslash hcoded cs

/-! ### Literals -/

theorem charBytes_append (c : Char) (cs : List Char) :
    charBytes c ++ cs.utf8Encode = (c :: cs).utf8Encode := by
  rw [← List.singleton_append, List.utf8Encode_append, List.utf8Encode_singleton]
  rfl

theorem readBody_flatMap (cs rest : List Char) :
    readBody (cs.flatMap stringChar ++ '"' :: rest) = some (cs.utf8Encode, rest) := by
  induction cs with
  | nil => rw [List.flatMap_nil, List.nil_append, readBody]; rfl
  | cons c cs ih =>
    rw [List.flatMap_cons, List.append_assoc, readBody_stringChar, ih, ← charBytes_append]
    rfl

/-- A literal is read up to its end, whatever follows it, and its value is the text. -/
theorem readString_append (s : String) (rest : List Char) :
    readString ((string s).toList ++ rest) = some (s.toUTF8, rest) := by
  have hliteral : (string s).toList ++ rest =
      '"' :: (s.toList.flatMap stringChar ++ '"' :: rest) := by
    simp [string, stringChars]
  rw [hliteral, readString, readBody_flatMap, String.utf8Encode_toList]
  rfl

/-- A literal ends where it says, and says what it ends: no other literal begins in the same way. -/
theorem string_append_inj {s t : String} {rest other : List Char}
    (h : (string s).toList ++ rest = (string t).toList ++ other) : s = t ∧ rest = other := by
  have hread := congrArg readString h
  rw [readString_append, readString_append, Option.some.injEq, Prod.mk.injEq] at hread
  exact ⟨String.toByteArray_inj.mp hread.1, hread.2⟩

/-- The control characters of Unicode, its general category Cc. -/
def IsControl (c : Char) : Prop := c.toNat ≤ 0x1f ∨ 0x7f ≤ c.toNat ∧ c.toNat ≤ 0x9f

theorem isCoded_eq_false_iff {c : Char} : isCoded c = false ↔ ¬IsControl c ∧ c ≠ '\ufeff' := by
  have hmark : c = '\ufeff' ↔ c.toNat = 0xfeff := by rw [← Char.toNat_inj]; rfl
  rw [Ne, hmark, IsControl, ← Bool.not_eq_true]
  simp only [isCoded, Bool.or_eq_true, Bool.and_eq_true, decide_eq_true_eq, beq_iff_eq]
  omega

theorem exists_digitChar_of_mem_toDigits {base n : Nat} {c : Char} (hbase : 1 < base)
    (h : c ∈ Nat.toDigits base n) : ∃ d < base, c = Nat.digitChar d := by
  induction n using Nat.strongRecOn with
  | ind n ih =>
    rw [Nat.toDigits_eq_if hbase] at h
    split at h
    · rename_i hn
      exact ⟨n, hn, List.mem_singleton.mp h⟩
    · rename_i hn
      rcases List.mem_append.mp h with hmore | hlast
      · exact ih (n / base) (Nat.div_lt_self (by omega) hbase) hmore
      · exact ⟨n % base, Nat.mod_lt n (by omega), List.mem_singleton.mp hlast⟩

theorem isCoded_of_mem_toDigits {n : Nat} {c : Char} (h : c ∈ Nat.toDigits 16 n) :
    isCoded c = false := by
  have hdigit : ∀ d < 16, isCoded (Nat.digitChar d) = false := by decide
  obtain ⟨d, hd, rfl⟩ := exists_digitChar_of_mem_toDigits (by omega) h
  exact hdigit d hd

/-- What writes a character is itself written as it is. -/
theorem isCoded_of_mem_stringChar {c d : Char} (h : d ∈ stringChar c) : isCoded d = false := by
  have htwo : ∀ letter, isCoded letter = false → d ∈ ['\\', letter] → isCoded d = false := by
    intro letter hletter hd
    rcases List.mem_pair.mp hd with rfl | rfl
    · decide
    · exact hletter
  unfold stringChar at h
  split_ifs at h with hquote hslash hline hreturn htab hcoded
  · exact htwo _ (by decide) h
  · exact htwo _ (by decide) h
  · exact htwo _ (by decide) h
  · exact htwo _ (by decide) h
  · exact htwo _ (by decide) h
  · rw [List.mem_cons, List.mem_cons, paddedDigits, List.mem_append, List.mem_replicate] at h
    rcases h with rfl | rfl | ⟨-, rfl⟩ | hdigit
    · decide
    · decide
    · decide
    · exact isCoded_of_mem_toDigits hdigit
  · exact List.mem_singleton.mp h ▸ (Bool.not_eq_true _).mp hcoded

theorem isCoded_of_mem_string {s : String} {c : Char} (h : c ∈ (string s).toList) :
    isCoded c = false := by
  simp only [string, stringChars, String.toList_ofList, List.cons_append, List.mem_cons,
    List.mem_append, List.mem_flatMap, List.not_mem_nil, or_false] at h
  rcases h with rfl | ⟨d, -, h⟩ | rfl
  · decide
  · exact isCoded_of_mem_stringChar h
  · decide

/-- **A Go string literal says what it was made of, and where it ends.** Whatever stands behind the
literal for `s`, the lexer of Go consumes the literal and nothing else, and its value is `s`. The
literal holds no control character, no line break and no byte order mark. So texts that begin with
the literals for `s` and `t` are the same only if `s` and `t` are, and what follows them. -/
theorem string_lossless (s : String) (rest : List Char) :
    readString ((string s).toList ++ rest) = some (s.toUTF8, rest) ∧
    (∀ c ∈ (string s).toList, ¬IsControl c ∧ c ≠ '\n' ∧ c ≠ '\r' ∧ c ≠ '\ufeff') ∧
    (∀ t other, (string s).toList ++ rest = (string t).toList ++ other → s = t ∧ rest = other) ∧
    Function.Injective string := by
  refine ⟨readString_append s rest, fun c hc => ?_, fun t other => string_append_inj, ?_⟩
  · obtain ⟨hcontrol, hmark⟩ := isCoded_eq_false_iff.mp (isCoded_of_mem_string hc)
    refine ⟨hcontrol, ?_, ?_, hmark⟩
    · rintro rfl; exact hcontrol (Or.inl (by decide))
    · rintro rfl; exact hcontrol (Or.inl (by decide))
  · intro s t h
    have happend : (string s).toList ++ [] = (string t).toList ++ [] := by rw [h]
    exact (string_append_inj happend).1

theorem string_lossless_of_escapes :
    string "\"\\n\n\u0085\\" = "\"\\\"\\\\n\\n\\u0085\\\\\"" ∧
    readString ("\"\\\"\\\\n\\n\\u0085\\\\\"".toList ++ ['"']) =
      some ("\"\\n\n\u0085\\".toUTF8, ['"']) := by
  have hliteral : string "\"\\n\n\u0085\\" = "\"\\\"\\\\n\\n\\u0085\\\\\"" := by decide +kernel
  exact ⟨hliteral, hliteral ▸ (string_lossless "\"\\n\n\u0085\\" ['"']).1⟩

end GladeGo.Go
