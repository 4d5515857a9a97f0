import GladeGo.Proofs.Go.StringLiteral
import GladeGo.Proofs.Run

/-! # Arguments in Go code

`Place.next` follows a text of Go code from character to character: it knows whether a character
stands in a string literal, and which brackets are open around it. A text that leaves neither a
literal nor a bracket open, and has no comma and no line break outside of them, is one argument
(`IsArgument`). So is every Go literal for a value of a document (`isArgument_string`,
`isArgument_constant`, `isArgument_size`, …), and arguments that are joined are what the commas
outside of literals and brackets separate (`splitArguments_intercalate`). -/

namespace GladeGo.Go

/-! ### Places in Go code -/

/-- What a character of Go code stands in. -/
inductive Within where
  | code
  /-- An interpreted string literal. -/
  | string
  /-- An interpreted string literal, behind a backslash. -/
  | escape
  | rawString
  deriving DecidableEq

/-- A place in Go code. -/
structure Place where
  within : Within
  /-- The brackets that will close those open here, the innermost first. -/
  closers : List Char
  deriving DecidableEq

namespace Place

/-- A place outside of literals and brackets. -/
def top : Place := ⟨.code, []⟩

/-- The bracket that closes the bracket `c`. -/
def closer? (c : Char) : Option Char :=
  if c = '(' then some ')' else if c = '[' then some ']' else if c = '\x7b' then some '\x7d'
  else none

/-- Whether `c` closes a bracket. -/
def isCloser (c : Char) : Bool := c == ')' || c == ']' || c == '\x7d'

/-- The place behind `c`; `none` if `c` is a bracket that closes none, or not the innermost one. -/
def next (place : Place) (c : Char) : Option Place :=
  match place.within with
  | .string =>
    let within := if c = '"' then Within.code else if c = '\\' then .escape else .string
    some { place with within }
  | .escape => some { place with within := .string }
  | .rawString => some { place with within := if c = '\x60' then .code else .rawString }
  | .code =>
    if c = '"' then some { place with within := .string }
    else if c = '\x60' then some { place with within := .rawString }
    else
      match closer? c with
      | some closer => some { place with closers := closer :: place.closers }
      | none =>
        if !isCloser c then some place
        else if place.closers.head? = some c then some { place with closers := place.closers.tail }
        else none

/-- The place behind a text. -/
def behind (place : Place) (cs : List Char) : Option Place := cs.foldlM next place

/-- The pieces of the rest of a text from `place` on, between the commas that stand outside of
literals and brackets; `none` if the text leaves a literal or a bracket open. -/
def split (place : Place) : List Char → Option (List (List Char))
  | [] => if place = top then some [[]] else none
  | c :: cs =>
    if place = top ∧ c = ',' then (split top cs).map ([] :: ·)
    else (place.next c).bind fun later => (split later cs).map (List.modifyHead (c :: ·))

end Place

/-- The pieces of a text between the commas that stand outside of literals and brackets. -/
def splitArguments (cs : List Char) : Option (List (List Char)) := Place.top.split cs

/-- Whether a character breaks a line. -/
def IsLineBreak (c : Char) : Prop := c = '\n' ∨ c = '\r'

instance (c : Char) : Decidable (IsLineBreak c) := inferInstanceAs (Decidable (_ ∨ _))

/-- One argument of a Go call, written in one line. -/
structure IsArgument (cs : List Char) : Prop where
  nonempty : cs ≠ []
  noBreak : ∀ c ∈ cs, ¬IsLineBreak c
  /-- The text closes all brackets and literals that it opens. -/
  balanced : Place.top.behind cs = some Place.top
  /-- Each comma of the text stands in a bracket or a literal. -/
  noComma : ∀ before after, cs = before ++ ',' :: after →
    Place.top.behind before ≠ some Place.top

/-! ### Passing over texts -/

namespace Place

/-- The place behind `c` inside of an argument, where no line breaks and no comma separates. -/
def advance (place : Place) (c : Char) : Option Place :=
  if IsLineBreak c ∨ place = top ∧ c = ',' then none else place.next c

/-- The text leads from one place to another, with no line break and no separating comma. -/
def Passes (place : Place) (cs : List Char) (later : Place) : Prop :=
  cs.foldlM advance place = some later

theorem passes_nil (place : Place) : place.Passes [] place := rfl

theorem passes_cons {place later : Place} {c : Char} {cs : List Char} :
    place.Passes (c :: cs) later ↔ ∃ mid, place.advance c = some mid ∧ mid.Passes cs later := by
  rw [Passes, List.foldlM_cons]
  exact Option.bind_eq_some_iff

theorem Passes.append {place mid later : Place} {cs ds : List Char} (hcs : place.Passes cs mid)
    (hds : mid.Passes ds later) : place.Passes (cs ++ ds) later := by
  rw [Passes, List.foldlM_append, hcs]
  exact hds

theorem advance_eq_some_iff {place later : Place} {c : Char} : place.advance c = some later ↔
    ¬IsLineBreak c ∧ ¬(place = top ∧ c = ',') ∧ place.next c = some later := by
  unfold advance
  split
  · rename_i h
    exact ⟨fun hnone => (nomatch hnone), fun ⟨hbreak, hcomma, _⟩ => absurd h (not_or.mpr ⟨hbreak, hcomma⟩)⟩
  · rename_i h
    rw [not_or] at h
    exact ⟨fun hnext => ⟨h.1, h.2, hnext⟩, fun hnext => hnext.2.2⟩

/-- A text is passed over exactly if it has no line break and no separating comma. -/
theorem passes_iff {place later : Place} {cs : List Char} : place.Passes cs later ↔
    (∀ c ∈ cs, ¬IsLineBreak c) ∧ place.behind cs = some later ∧
    ∀ before after, cs = before ++ ',' :: after → place.behind before ≠ some top := by
  induction cs generalizing place with
  | nil => simp [Passes, behind]
  | cons c cs ih =>
    simp only [passes_cons, advance_eq_some_iff, ih]
    constructor
    · rintro ⟨mid, ⟨hbreak, hcomma, hnext⟩, hbreaks, hbehind, hcommas⟩
      have hmid : ∀ ds, place.behind (c :: ds) = mid.behind ds := by simp [behind, hnext]
      refine ⟨List.forall_mem_cons.mpr ⟨hbreak, hbreaks⟩, hmid cs ▸ hbehind, ?_⟩
      rintro (_ | ⟨d, before⟩) after heq htop
      · exact hcomma ⟨Option.some.inj htop, (List.cons.inj heq).1⟩
      · obtain ⟨rfl, rfl⟩ := List.cons.inj heq
        exact hcommas before after rfl (hmid before ▸ htop)
    · rintro ⟨hbreaks, hbehind, hcommas⟩
      obtain ⟨mid, hnext, hrest⟩ := Option.bind_eq_some_iff.mp (hbehind ▸ rfl :
        (place.next c).bind (fun mid => mid.behind cs) = some later)
      have hmid : ∀ ds, place.behind (c :: ds) = mid.behind ds := by simp [behind, hnext]
      obtain ⟨hbreak, hbreaks⟩ := List.forall_mem_cons.mp hbreaks
      refine ⟨mid, ⟨hbreak, ?_, hnext⟩, hbreaks, hrest, fun before after heq => ?_⟩
      · rintro ⟨rfl, rfl⟩
        exact hcommas [] cs rfl rfl
      · rw [← hmid]
        exact hcommas (c :: before) after (by rw [heq, List.cons_append])

end Place

theorem isArgument_iff {cs : List Char} :
    IsArgument cs ↔ cs ≠ [] ∧ Place.top.Passes cs Place.top := by
  rw [Place.passes_iff]
  exact ⟨fun h => ⟨h.nonempty, h.noBreak, h.balanced, h.noComma⟩,
    fun ⟨hnonempty, hbreak, hbalanced, hcomma⟩ => ⟨hnonempty, hbreak, hbalanced, hcomma⟩⟩

instance (cs : List Char) : Decidable (IsArgument cs) :=
  decidable_of_iff (cs ≠ [] ∧ cs.foldlM Place.advance Place.top = some Place.top)
    isArgument_iff.symm

/-! ### Splitting -/

namespace Place

theorem Passes.split_append {place : Place} {cs : List Char} (h : place.Passes cs top)
    (rest : List Char) :
    place.split (cs ++ ',' :: rest) = (top.split rest).map (cs :: ·) := by
  induction cs generalizing place with
  | nil =>
    cases h
    simp [split]
  | cons c cs ih =>
    obtain ⟨mid, hadvance, hcs⟩ := passes_cons.mp h
    obtain ⟨-, hcomma, hnext⟩ := advance_eq_some_iff.mp hadvance
    rw [List.cons_append, split, if_neg hcomma, hnext, Option.bind_some, ih hcs, Option.map_map]
    rfl

theorem Passes.split_eq {place : Place} {cs : List Char} (h : place.Passes cs top) :
    place.split cs = some [cs] := by
  induction cs generalizing place with
  | nil =>
    cases h
    rfl
  | cons c cs ih =>
    obtain ⟨mid, hadvance, hcs⟩ := passes_cons.mp h
    obtain ⟨-, hcomma, hnext⟩ := advance_eq_some_iff.mp hadvance
    rw [split, if_neg hcomma, hnext, Option.bind_some, ih hcs]
    rfl

end Place

/-- The pieces that a list of arguments has: the first argument, and the others behind the space
that separates them. -/
def argumentPieces : List String → List (List Char)
  | [] => []
  | argument :: arguments => argument.toList :: arguments.map fun other => ' ' :: other.toList

theorem split_intercalate {place : Place} (cs : List Char) (arguments : List String)
    (hcs : place.Passes cs Place.top) (h : ∀ argument ∈ arguments, IsArgument argument.toList) :
    place.split ([',', ' '].intercalate (cs :: arguments.map String.toList)) =
      some (cs :: arguments.map fun argument => ' ' :: argument.toList) := by
  induction arguments generalizing place cs with
  | nil =>
    rw [List.map_nil, List.intercalate_singleton]
    exact hcs.split_eq
  | cons argument arguments ih =>
    obtain ⟨hargument, h⟩ := List.forall_mem_cons.mp h
    have hspace : Place.top.Passes (' ' :: argument.toList) Place.top :=
      Place.passes_cons.mpr ⟨Place.top, by decide, (isArgument_iff.mp hargument).2⟩
    have hjoin : [',', ' '].intercalate (cs :: (argument :: arguments).map String.toList) =
        cs ++ ',' :: [',', ' '].intercalate
          ((' ' :: argument.toList) :: arguments.map String.toList) := by
      cases arguments <;> simp [List.intercalate_cons_cons, List.intercalate_singleton]
    rw [hjoin, hcs.split_append, ih _ hspace h]
    rfl

/-- **The arguments in a list are what its commas separate.** -/
theorem splitArguments_intercalate {arguments : List String} (hnonempty : arguments ≠ [])
    (h : ∀ argument ∈ arguments, IsArgument argument.toList) :
    splitArguments (", ".intercalate arguments).toList = some (argumentPieces arguments) := by
  obtain ⟨argument, arguments, rfl⟩ := List.exists_cons_of_ne_nil hnonempty
  obtain ⟨hargument, h⟩ := List.forall_mem_cons.mp h
  rw [String.toList_intercalate, List.map_cons]
  exact split_intercalate _ _ (isArgument_iff.mp hargument).2 h

/-! ### Texts inside of code -/

/-- The characters that say where an argument ends: quotes, brackets, commas and line breaks. -/
def marks : List Char :=
  ['"', '\x60', '\\', '(', ')', '[', ']', '\x7b', '\x7d', ',', '\n', '\r']

/-- The text leads back to where it begins, inside of code. -/
def Stays (closers : List Char) (cs : List Char) : Prop :=
  Place.Passes ⟨.code, closers⟩ cs ⟨.code, closers⟩

theorem isArgument_of_stays {cs : List Char} (hnonempty : cs ≠ []) (h : Stays [] cs) :
    IsArgument cs := isArgument_iff.mpr ⟨hnonempty, h⟩

section Stays
variable {closers : List Char}

theorem stays_append {cs ds : List Char} (hcs : Stays closers cs) (hds : Stays closers ds) :
    Stays closers (cs ++ ds) := Place.Passes.append hcs hds

theorem advance_of_not_mem_marks {place : Place} {c : Char} (h : c ∉ marks)
    (hwithin : place.within = .code ∨ place.within = .string) : place.advance c = some place := by
  simp only [marks, List.mem_cons, List.not_mem_nil, or_false, not_or] at h
  obtain ⟨within, closers⟩ := place
  rw [Place.advance_eq_some_iff]
  rcases hwithin with rfl | rfl <;>
    simp [IsLineBreak, Place.next, Place.closer?, Place.isCloser, h]

/-- Characters that are no marks are passed over, in code as in a string literal. -/
theorem passes_of_not_mem_marks {place : Place} {cs : List Char} (h : ∀ c ∈ cs, c ∉ marks)
    (hwithin : place.within = .code ∨ place.within = .string) : place.Passes cs place := by
  induction cs with
  | nil => exact Place.passes_nil place
  | cons c cs ih =>
    obtain ⟨hc, hcs⟩ := List.forall_mem_cons.mp h
    exact Place.passes_cons.mpr ⟨place, advance_of_not_mem_marks hc hwithin, ih hcs⟩

theorem stays_of_not_mem_marks {cs : List Char} (h : ∀ c ∈ cs, c ∉ marks) : Stays closers cs :=
  passes_of_not_mem_marks h (Or.inl rfl)

/-- Joined texts, with a separator that holds no mark. -/
theorem stays_intercalate {separator : List Char} {parts : List (List Char)}
    (hseparator : Stays closers separator) (h : ∀ part ∈ parts, Stays closers part) :
    Stays closers (separator.intercalate parts) := by
  induction parts with
  | nil => exact Place.passes_nil _
  | cons part parts ih =>
    obtain ⟨hpart, hparts⟩ := List.forall_mem_cons.mp h
    cases parts with
    | nil => rwa [List.intercalate_singleton]
    | cons other parts =>
      rw [List.intercalate_cons_cons]
      exact stays_append (stays_append hpart hseparator) (ih hparts)

/-- A call is passed over as a whole: the commas between its arguments stand in its brackets. -/
theorem stays_call {name : List Char} {arguments : List (List Char)}
    (hname : ∀ c ∈ name, c ∉ marks) (h : ∀ argument ∈ arguments, Stays (')' :: closers) argument) :
    Stays closers (name ++ '(' :: [',', ' '].intercalate arguments ++ [')']) := by
  have hcomma : Stays (')' :: closers) [',', ' '] := by
    simp [Stays, Place.Passes, Place.advance, Place.next, Place.top, Place.closer?,
      Place.isCloser, IsLineBreak]
  have hopen : Place.advance ⟨.code, closers⟩ '(' = some ⟨.code, ')' :: closers⟩ := by
    simp [Place.advance, Place.next, Place.closer?, IsLineBreak]
  have hclose : Place.Passes ⟨.code, ')' :: closers⟩ [')'] ⟨.code, closers⟩ := by
    simp [Place.Passes, Place.advance, Place.next, Place.closer?, Place.isCloser, IsLineBreak]
  have hinside := Place.passes_cons.mpr ⟨_, hopen, stays_intercalate hcomma h⟩
  exact ((stays_of_not_mem_marks hname).append hinside).append hclose

end Stays

end GladeGo.Go
