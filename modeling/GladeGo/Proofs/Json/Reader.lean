import GladeGo.Json.Value
import GladeGo.Proofs.Go.StringLiteral
import Mathlib.Data.List.Forall2

/-! # JSON texts read

`read` reads any JSON text: blanks between its parts, strings with all their escapes and characters
given by pairs of code units, numbers, and arrays and objects of any depth. What is written for a
value is read back as that value, whatever follows it (`reads_chars`). The induction is on the value:
a string ends at its first quote that is not escaped (`readText_flatMap`), and a list goes on at a
comma and ends at its bracket (`EndsWith.reads_bracketed`). -/

namespace GladeGo.Json

open Go (charOfCode charOfCode_toNat readCode readCode_length readCode_paddedDigits)
open Text (paddedDigits)

/-- What a JSON text says. A number is kept as it is written. -/
inductive Tree where
  | null
  | bool (value : Bool)
  | number (digits : String)
  | string (value : String)
  | array (items : List Tree)
  | object (members : List (String × Tree))
  deriving Repr

mutual

/-- What the text for a value says. -/
def tree : Json → Tree
  | null => .null
  | bool value => .bool value
  | string value => .string value
  | array items => .array (trees items)
  | object members => .object (memberTrees members)

/-- What the texts for the items of an array say. -/
def trees : List Json → List Tree
  | [] => []
  | item :: items => item.tree :: trees items

/-- What the texts for the members of an object say. -/
def memberTrees : List (String × Json) → List (String × Tree)
  | [] => []
  | (key, value) :: members => (key, value.tree) :: memberTrees members

end

/-! ### The reader -/

/-- Whether `c` may stand between the parts of a text. -/
def isBlank (c : Char) : Bool := c == ' ' || c == '\t' || c == '\n' || c == '\r'

/-- What follows the blanks that a text begins with. -/
def skipBlanks (cs : List Char) : List Char := cs.dropWhile isBlank

/-- The character that a backslash and one letter stand for. -/
def letterEscape : Char → Option Char
  | '"' => some '"'
  | '\\' => some '\\'
  | '/' => some '/'
  | 'b' => some '\x08'
  | 'f' => some '\x0c'
  | 'n' => some '\n'
  | 'r' => some '\r'
  | 't' => some '\t'
  | _ => none

/-- The character that two surrogate code units stand for. -/
def charOfPair (high low : Nat) : Option Char :=
  if 0xd800 ≤ high ∧ high < 0xdc00 ∧ 0xdc00 ≤ low ∧ low < 0xe000 then
    charOfCode (0x10000 + (high - 0xd800) * 0x400 + (low - 0xdc00))
  else none

/-- Reads the character that a code unit stands for, together with the one in the escape behind it
if it is a surrogate. -/
def readUnit (cs : List Char) : Option (Char × List Char) := do
  let (unit, rest) ← readCode 16 4 0 cs
  match charOfCode unit, rest with
  | some char, rest => some (char, rest)
  | none, '\\' :: 'u' :: rest => do
    let (low, rest) ← readCode 16 4 0 rest
    let char ← charOfPair unit low
    some (char, rest)
  | none, _ => none

/-- Reads an escape that begins before `cs` with its backslash. -/
def readEscape : List Char → Option (Char × List Char)
  | [] => none
  | 'u' :: cs => readUnit cs
  | c :: cs => (letterEscape c).map fun char => (char, cs)

theorem readUnit_length {cs rest : List Char} {c : Char} (h : readUnit cs = some (c, rest)) :
    rest.length ≤ cs.length := by
  obtain ⟨⟨unit, rest₁⟩, hunit, h⟩ := Option.bind_eq_some_iff.mp h
  have hlength := readCode_length hunit
  dsimp only at h
  split at h
  · cases h
    exact hlength
  · obtain ⟨⟨low, rest₂⟩, hlow, h⟩ := Option.bind_eq_some_iff.mp h
    obtain ⟨char, -, h⟩ := Option.bind_eq_some_iff.mp h
    cases h
    exact Nat.le_trans (readCode_length hlow) (by simp only [List.length_cons] at hlength; omega)
  · cases h

theorem readEscape_length {cs rest : List Char} {c : Char} (h : readEscape cs = some (c, rest)) :
    rest.length ≤ cs.length := by
  unfold readEscape at h
  split at h
  · cases h
  · exact Nat.le_succ_of_le (readUnit_length h)
  · obtain ⟨char, -, h⟩ := Option.map_eq_some_iff.mp h
    cases h
    exact Nat.le_succ _

/-- Reads the rest of a string behind its opening quote: its characters, and what follows its
closing quote. -/
def readText (cs : List Char) : Option (List Char × List Char) :=
  match cs with
  | [] => none
  | '"' :: cs => some ([], cs)
  | '\\' :: cs =>
    match _hescape : readEscape cs with
    | none => none
    | some (c, rest) => (readText rest).map fun (more, rest) => (c :: more, rest)
  | c :: cs =>
    if c.toNat < 0x20 then none
    else (readText cs).map fun (more, rest) => (c :: more, rest)
termination_by cs.length
decreasing_by
  · have := readEscape_length _hescape
    simp only [List.length_cons]
    omega
  · simp only [List.length_cons]
    omega

/-- Reads digits, one at least. -/
def readDigits (cs : List Char) : Option (List Char × List Char) :=
  match cs.span Char.isDigit with
  | ([], _) => none
  | found => some found

/-- Reads the digits of a number in front of its point. They do not begin with zero, unless they are
no more than that. -/
def readWhole : List Char → Option (List Char × List Char)
  | '0' :: cs => some (['0'], cs)
  | cs => readDigits cs

/-- Reads a point and the digits behind it, if there is one. -/
def readFraction : List Char → Option (List Char × List Char)
  | '.' :: cs => (readDigits cs).map fun (digits, rest) => ('.' :: digits, rest)
  | cs => some ([], cs)

/-- Reads an exponent, if there is one. -/
def readExponent : List Char → Option (List Char × List Char)
  | c :: cs =>
    if c = 'e' ∨ c = 'E' then
      match cs with
      | '+' :: cs => (readDigits cs).map fun (digits, rest) => (c :: '+' :: digits, rest)
      | '-' :: cs => (readDigits cs).map fun (digits, rest) => (c :: '-' :: digits, rest)
      | cs => (readDigits cs).map fun (digits, rest) => (c :: digits, rest)
    else some ([], c :: cs)
  | [] => some ([], [])

/-- Reads a number. -/
def readNumber (cs : List Char) : Option (Tree × List Char) := do
  let (sign, cs) := match cs with
    | '-' :: cs => (['-'], cs)
    | cs => ([], cs)
  let (whole, cs) ← readWhole cs
  let (fraction, cs) ← readFraction cs
  let (exponent, cs) ← readExponent cs
  some (.number (String.ofList (sign ++ whole ++ fraction ++ exponent)), cs)

/-- Reads a value that is a word or a number. -/
def readWord : List Char → Option (Tree × List Char)
  | 'n' :: 'u' :: 'l' :: 'l' :: cs => some (.null, cs)
  | 't' :: 'r' :: 'u' :: 'e' :: cs => some (.bool true, cs)
  | 'f' :: 'a' :: 'l' :: 's' :: 'e' :: cs => some (.bool false, cs)
  | cs => readNumber cs

section List
variable {α : Type}

/-- Reads items with commas between them, one at least, up to the closing bracket. An item takes a
character or more, so that the text is shorter at the next one. -/
def readItems (item : List Char → Option (α × List Char)) (closing : Char) (cs : List Char) :
    Option (List α × List Char) :=
  match item cs with
  | none => none
  | some (first, rest) =>
    match skipBlanks rest with
    | [] => none
    | c :: rest =>
      if c = closing then some ([first], rest)
      else if c = ',' ∧ rest.length < cs.length then
        (readItems item closing rest).map fun (items, rest) => (first :: items, rest)
      else none
termination_by cs.length

/-- Reads a list of items behind its opening bracket. -/
def readList (item : List Char → Option (α × List Char)) (closing : Char) (cs : List Char) :
    Option (List α × List Char) :=
  if (skipBlanks cs).head? = some closing then some ([], (skipBlanks cs).tail)
  else readItems item closing cs

end List

/-- Reads a member of an object: a string, a colon and a value. -/
def readMember (value : List Char → Option (Tree × List Char)) (cs : List Char) :
    Option ((String × Tree) × List Char) :=
  match skipBlanks cs with
  | '"' :: cs => do
    let (key, cs) ← readText cs
    match skipBlanks cs with
    | ':' :: cs => (value cs).map fun (tree, rest) => ((String.ofList key, tree), rest)
    | _ => none
  | _ => none

/-- Reads a value in which arrays and objects stand in each other no more than `depth` times. -/
def readValue : Nat → List Char → Option (Tree × List Char)
  | 0, _ => none
  | depth + 1, cs =>
    match skipBlanks cs with
    | '"' :: cs => (readText cs).map fun (text, rest) => (.string (String.ofList text), rest)
    | '[' :: cs =>
      (readList (readValue depth) ']' cs).map fun (items, rest) => (.array items, rest)
    | '\x7b' :: cs =>
      (readList (readMember (readValue depth)) '\x7d' cs).map fun (members, rest) =>
        (.object members, rest)
    | cs => readWord cs

/-- Reads a whole text. Each array and object in it takes two characters, so that none of them is
too deep. -/
def read (text : String) : Option Tree :=
  match readValue text.length text.toList with
  | some (tree, rest) => if skipBlanks rest = [] then some tree else none
  | none => none

/-! ### Strings -/

theorem toNat_lt_of_control {c : Char} (h : c.toNat < 0x20) : c.toNat < 16 ^ 4 := by omega

/-- Reading goes on behind an escape. -/
theorem readText_escape {cs rest : List Char} {c : Char} (h : readEscape cs = some (c, rest)) :
    readText ('\\' :: cs) = (readText rest).map fun (more, rest) => (c :: more, rest) := by
  rw [readText]
  split
  · rename_i hnone
    rw [hnone] at h
    cases h
  · rename_i hsome
    rw [hsome] at h
    cases h
    rfl

theorem readText_plain {c : Char} (hquote : c ≠ '"') (hslash : c ≠ '\\')
    (hcontrol : ¬c.toNat < 0x20) (cs : List Char) :
    readText (c :: cs) = (readText cs).map fun (more, rest) => (c :: more, rest) := by
  rw [readText, if_neg hcontrol]
  · exact fun h => hquote h
  · exact fun h => hslash h

/-- **A character is read back**, in each of the ways in which it is written. -/
theorem readText_stringChar (c : Char) (cs : List Char) :
    readText (stringChar c ++ cs) = (readText cs).map fun (more, rest) => (c :: more, rest) := by
  unfold stringChar
  split_ifs with hquote hslash hback hfeed hline hreturn htab hcontrol
  · subst hquote
    exact readText_escape rfl
  · subst hslash
    exact readText_escape rfl
  · subst hback
    exact readText_escape rfl
  · subst hfeed
    exact readText_escape rfl
  · subst hline
    exact readText_escape rfl
  · subst hreturn
    exact readText_escape rfl
  · subst htab
    exact readText_escape rfl
  · change readText ('\\' :: 'u' :: (paddedDigits 16 4 c.toNat ++ cs)) = _
    have hcode := readCode_paddedDigits (by omega) (toNat_lt_of_control hcontrol) cs
    refine readText_escape ?_
    rw [readEscape, readUnit, hcode]
    simp only [Option.bind_eq_bind, Option.bind_some, charOfCode_toNat]
  · exact readText_plain hquote hslash hcontrol cs

/-- A string ends at its closing quote. -/
theorem readText_flatMap (cs rest : List Char) :
    readText (cs.flatMap stringChar ++ '"' :: rest) = some (cs, rest) := by
  induction cs with
  | nil => rw [List.flatMap_nil, List.nil_append, readText]
  | cons c cs ih =>
    rw [List.flatMap_cons, List.append_assoc, readText_stringChar, ih]
    rfl

/-! ### Lists -/

theorem skipBlanks_cons {c : Char} (h : isBlank c = false) (cs : List Char) :
    skipBlanks (c :: cs) = c :: cs := by
  rw [skipBlanks, List.dropWhile_cons_of_neg (by simp [h])]

theorem skipBlanks_newLine (depth : Nat) (cs : List Char) :
    skipBlanks (newLine depth ++ cs) = skipBlanks cs := by
  refine List.dropWhile_append_of_pos fun c hc => ?_
  rcases List.mem_cons.mp hc with rfl | hc
  · rfl
  · rw [List.eq_of_mem_replicate hc]
    rfl

theorem skipBlanks_skipBlanks (cs : List Char) : skipBlanks (skipBlanks cs) = skipBlanks cs := by
  induction cs with
  | nil => rfl
  | cons c cs ih =>
    cases hblank : isBlank c with
    | true => simpa only [skipBlanks, List.dropWhile_cons_of_pos hblank] using ih
    | false => rw [skipBlanks_cons hblank, skipBlanks_cons hblank]

section List
variable {α : Type} {item : List Char → Option (α × List Char)} {closing : Char}

/-- The text is read as `a`, whatever follows it. -/
def Reads (item : List Char → Option (α × List Char)) (cs : List Char) (a : α) : Prop :=
  ∀ rest, item (cs ++ rest) = some (a, rest)

/-- An item may stand behind blanks, and the closing bracket is not taken for one. -/
structure EndsWith (item : List Char → Option (α × List Char)) (closing : Char) : Prop where
  skips : ∀ cs, item (skipBlanks cs) = item cs
  refuses : ∀ rest, item (closing :: rest) = none
  isMark : isBlank closing = false
  ne_comma : closing ≠ ','

theorem EndsWith.reads_newLine (h : EndsWith item closing) {cs : List Char} {a : α}
    (hreads : Reads item cs a) (depth : Nat) : Reads item (newLine depth ++ cs) a := by
  intro rest
  rw [← h.skips, List.append_assoc, skipBlanks_newLine, h.skips]
  exact hreads rest

/-- **A list is read back** up to its closing bracket, comma by comma. -/
theorem EndsWith.readItems_intercalate (h : EndsWith item closing) {line : List Char}
    {lines : List (List Char)} {a : α} {as : List α} (hline : Reads item line a)
    (hlines : List.Forall₂ (Reads item) lines as) (depth : Nat) (rest : List Char) :
    readItems item closing ([','].intercalate (line :: lines) ++ (newLine depth ++
      closing :: rest)) = some (a :: as, rest) := by
  induction hlines generalizing line a with
  | nil =>
    rw [List.intercalate_singleton, readItems, hline]
    simp only [skipBlanks_newLine, skipBlanks_cons h.isMark, if_pos]
  | @cons next b lines as hnext _ ih =>
    rw [List.intercalate_cons_cons, List.append_assoc, List.append_assoc, readItems, hline]
    simp only [List.singleton_append, skipBlanks_cons (show isBlank ',' = false from rfl),
      if_neg h.ne_comma.symm]
    rw [if_pos ⟨trivial, by simp only [List.length_append, List.length_cons]; omega⟩, ih hnext]
    rfl

/-- **A bracketed list is read back.** -/
theorem EndsWith.reads_bracketed (h : EndsWith item closing) {items : List (List Char)}
    {as : List α} (hitems : List.Forall₂ (Reads item) items as) (depth : Nat) (opening : Char) :
    ∃ cs, bracketed depth opening closing items = opening :: cs ∧
      Reads (readList item closing) cs as := by
  cases hitems with
  | nil =>
    refine ⟨[closing], rfl, fun rest => ?_⟩
    rw [List.singleton_append, readList, skipBlanks_cons h.isMark]
    exact if_pos rfl
  | @cons first a items as hfirst hitems =>
    let lines := items.map fun item => newLine (depth + 1) ++ item
    have hlines : List.Forall₂ (Reads item) lines as :=
      List.forall₂_map_left_iff.mpr (hitems.imp fun _ _ hreads => h.reads_newLine hreads _)
    refine ⟨[','].intercalate ((newLine (depth + 1) ++ first) :: lines) ++ newLine depth ++
      [closing], rfl, fun rest => ?_⟩
    have hread := h.readItems_intercalate (h.reads_newLine hfirst (depth + 1)) hlines depth rest
    rw [List.append_assoc, List.append_assoc, List.singleton_append, readList, if_neg]
    · exact hread
    · intro hclosing
      obtain ⟨more, hmore⟩ := List.head?_eq_some_iff.mp hclosing
      rw [readItems, ← h.skips, hmore, h.refuses] at hread
      cases hread

end List

theorem length_le_intercalate {line : List Char} {lines : List (List Char)} (h : line ∈ lines) :
    line.length ≤ ([','].intercalate lines).length := by
  induction lines with
  | nil => cases h
  | cons first lines ih =>
    cases lines with
    | nil => rw [List.mem_singleton.mp h, List.intercalate_singleton]
    | cons next lines =>
      rw [List.intercalate_cons_cons, List.append_assoc, List.length_append, List.length_append]
      rcases List.mem_cons.mp h with rfl | h
      · omega
      · have := ih h
        omega

theorem length_lt_bracketed {item : List Char} {items : List (List Char)} (h : item ∈ items)
    (depth : Nat) (opening closing : Char) :
    item.length < (bracketed depth opening closing items).length := by
  have hline := length_le_intercalate
    (List.mem_map_of_mem (f := fun item => newLine (depth + 1) ++ item) h)
  rw [bracketed, if_neg (by simpa using List.ne_nil_of_mem h)]
  simp only [List.length_append, List.length_cons] at hline ⊢
  omega

/-! ### Values -/

theorem endsWith_readValue (nesting : Nat) : EndsWith (readValue nesting) ']' where
  skips cs := by cases nesting <;> simp only [readValue, skipBlanks_skipBlanks]
  refuses rest := by cases nesting <;> rfl
  isMark := rfl
  ne_comma := by decide

theorem endsWith_readMember (value : List Char → Option (Tree × List Char)) :
    EndsWith (readMember value) '\x7d' where
  skips cs := by simp only [readMember, skipBlanks_skipBlanks]
  refuses rest := rfl
  isMark := rfl
  ne_comma := by decide

theorem stringChars_append (s : String) (rest : List Char) :
    stringChars s ++ rest = '"' :: (s.toList.flatMap stringChar ++ '"' :: rest) := by
  simp [stringChars]

theorem reads_member {key : String} {cs : List Char} {tree : Tree} {nesting : Nat}
    (h : Reads (readValue nesting) cs tree) :
    Reads (readMember (readValue nesting)) (stringChars key ++ [':', ' '] ++ cs) (key, tree) := by
  intro rest
  have hvalue : readValue nesting (' ' :: (cs ++ rest)) = some (tree, rest) := by
    rw [← (endsWith_readValue nesting).skips]
    change readValue nesting (skipBlanks (cs ++ rest)) = _
    rw [(endsWith_readValue nesting).skips, h]
  rw [List.append_assoc, List.append_assoc, stringChars_append, readMember,
    skipBlanks_cons rfl]
  simp only [readText_flatMap, Option.bind_eq_bind, Option.bind_some, List.cons_append,
    List.nil_append, skipBlanks_cons (show isBlank ':' = false from rfl), hvalue,
    Option.map_some, String.ofList_toList]

theorem length_bracketed_pos (depth : Nat) (opening closing : Char) (items : List (List Char)) :
    0 < (bracketed depth opening closing items).length := by
  unfold bracketed
  split <;> exact Nat.succ_pos _

theorem length_chars_pos (value : Json) (depth : Nat) : 0 < (value.chars depth).length := by
  cases value with
  | null => exact Nat.succ_pos _
  | bool value => cases value <;> exact Nat.succ_pos _
  | string value => exact Nat.succ_pos _
  | array items => exact length_bracketed_pos depth _ _ _
  | object members => exact length_bracketed_pos depth _ _ _

mutual

/-- **A value is read back**, whatever follows it. What stands in its brackets is shorter than it, so
that it nests less. -/
theorem reads_chars (value : Json) (depth : Nat) {nesting : Nat}
    (h : (value.chars depth).length ≤ nesting) :
    Reads (readValue nesting) (value.chars depth) value.tree := by
  obtain ⟨nesting, rfl⟩ : ∃ less, nesting = less + 1 :=
    Nat.exists_eq_add_one_of_ne_zero (by have := length_chars_pos value depth; omega)
  intro rest
  cases value with
  | null => rfl
  | bool value => cases value <;> rfl
  | string value =>
    rw [chars, stringChars_append, readValue, skipBlanks_cons rfl]
    simp only [readText_flatMap, Option.map_some, String.ofList_toList, tree]
  | array items =>
    have hitems := reads_itemChars items (depth + 1) fun cs hcs =>
      Nat.lt_succ_iff.mp (Nat.lt_of_lt_of_le (length_lt_bracketed hcs depth '[' ']') h)
    obtain ⟨cs, hcs, hread⟩ := (endsWith_readValue nesting).reads_bracketed hitems depth '['
    rw [chars, hcs, List.cons_append, readValue, skipBlanks_cons rfl]
    simp only [hread rest, Option.map_some, tree]
  | object members =>
    have hmembers := reads_memberChars members (depth + 1) fun cs hcs =>
      Nat.lt_succ_iff.mp (Nat.lt_of_lt_of_le (length_lt_bracketed hcs depth '\x7b' '\x7d') h)
    obtain ⟨cs, hcs, hread⟩ :=
      (endsWith_readMember (readValue nesting)).reads_bracketed hmembers depth '\x7b'
    rw [chars, hcs, List.cons_append, readValue, skipBlanks_cons rfl]
    simp only [hread rest, Option.map_some, tree]

theorem reads_itemChars (items : List Json) (depth : Nat) {nesting : Nat}
    (h : ∀ cs ∈ itemChars depth items, cs.length ≤ nesting) :
    List.Forall₂ (Reads (readValue nesting)) (itemChars depth items) (trees items) := by
  cases items with
  | nil => exact .nil
  | cons item items =>
    obtain ⟨hitem, hitems⟩ := List.forall_mem_cons.mp h
    exact .cons (reads_chars item depth hitem) (reads_itemChars items depth hitems)

theorem reads_memberChars (members : List (String × Json)) (depth : Nat) {nesting : Nat}
    (h : ∀ cs ∈ memberChars depth members, cs.length ≤ nesting) :
    List.Forall₂ (Reads (readMember (readValue nesting))) (memberChars depth members)
      (memberTrees members) := by
  match members with
  | [] => exact .nil
  | (key, value) :: members =>
    obtain ⟨hmember, hmembers⟩ := List.forall_mem_cons.mp h
    have hvalue : (value.chars depth).length ≤ nesting := by
      rw [List.length_append] at hmember
      omega
    exact .cons (reads_member (reads_chars value depth hvalue))
      (reads_memberChars members depth hmembers)

end

/-- **The text for a value is read back**, also with a line break behind it. -/
theorem read_text (value : Json) : read (value.text ++ "\n") = some value.tree := by
  have hlength : (value.chars 0).length ≤ (value.text ++ "\n").length := by
    rw [String.length_append, text, String.length_ofList]
    omega
  have hchars : (value.text ++ "\n").toList = value.chars 0 ++ ['\n'] := by
    rw [String.toList_append, text, String.toList_ofList]
    rfl
  rw [read, hchars, reads_chars value 0 hlength]
  exact if_pos rfl

end GladeGo.Json
