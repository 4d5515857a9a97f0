/-! # Sets of characters

A set of characters is given by ranges of code points. Ranges may overlap, and none is empty. The
lemmas `has_append`, `has_intersection`, `has_difference` and `has_complement` say which characters
the operations on sets leave. -/

namespace GladeGo.Pattern

/-- The code points from `first` to `last`. -/
structure CharRange where
  first : Nat
  last : Nat
  deriving Repr, DecidableEq

/-- Whether a code point lies in a range. -/
def CharRange.has (range : CharRange) (code : Nat) : Bool :=
  range.first ≤ code && code ≤ range.last

/-- The ranges of a set of characters. -/
abbrev CharSet := List CharRange

namespace CharSet

/-- Whether a set has a character. -/
def has (set : CharSet) (c : Char) : Bool := set.any (·.has c.toNat)

/-- The set of one character. -/
def single (c : Char) : CharSet := [⟨c.toNat, c.toNat⟩]

/-- The characters from `first` to `last`. -/
def between (first last : Char) : CharSet := [⟨first.toNat, last.toNat⟩]

/-- All characters. -/
def full : CharSet := [⟨0, 0xd7ff⟩, ⟨0xe000, 0x10ffff⟩]

end CharSet

/-- What is left of a range without another one. -/
def CharRange.without (range other : CharRange) : CharSet :=
  (if range.first < other.first then [⟨range.first, min range.last (other.first - 1)⟩] else []) ++
    if other.last < range.last then [⟨max range.first (other.last + 1), range.last⟩] else []

/-- What two ranges share. -/
def CharRange.shared (range other : CharRange) : CharSet :=
  let first := max range.first other.first
  let last := min range.last other.last
  if first ≤ last then [⟨first, last⟩] else []

namespace CharSet

/-- The characters of one set that are not in another one. -/
def difference (set other : CharSet) : CharSet :=
  other.foldl (fun left range => left.flatMap (·.without range)) set

/-- The characters that two sets share. -/
def intersection (set other : CharSet) : CharSet :=
  set.flatMap fun range => other.flatMap range.shared

/-- The characters in exactly one of two sets. -/
def symmetricDifference (set other : CharSet) : CharSet :=
  set.difference other ++ other.difference set

/-- The characters that are not in a set. -/
def complement (set : CharSet) : CharSet := full.difference set

/-- Whether a set has ASCII characters only. -/
def isAscii (set : CharSet) : Bool := set.all fun range => range.last ≤ 0x7f

/-- A set with the ASCII letters in it in upper and lower case. -/
def withBothCases (set : CharSet) : CharSet :=
  let lower := (set.intersection (between 'A' 'Z')).map fun range =>
    ⟨range.first + 32, range.last + 32⟩
  let upper := (set.intersection (between 'a' 'z')).map fun range =>
    ⟨range.first - 32, range.last - 32⟩
  set ++ lower ++ upper

end CharSet

/-! ### What the operations leave -/

theorem CharRange.any_without (range other : CharRange) (code : Nat) :
    (range.without other).any (·.has code) = (range.has code && !other.has code) := by
  rw [Bool.eq_iff_iff]
  unfold CharRange.without CharRange.has
  split <;> split <;> simp <;> omega

theorem CharRange.any_shared (range other : CharRange) (code : Nat) :
    (range.shared other).any (·.has code) = (range.has code && other.has code) := by
  rw [Bool.eq_iff_iff]
  unfold CharRange.shared CharRange.has
  dsimp only
  split <;> simp <;> omega

namespace CharSet

@[simp] theorem has_append (set other : CharSet) (c : Char) :
    CharSet.has (set ++ other) c = (set.has c || other.has c) := List.any_append

theorem has_without (set : CharSet) (range : CharRange) (c : Char) :
    CharSet.has (set.flatMap (·.without range)) c = (set.has c && !range.has c.toNat) := by
  induction set with
  | nil => rfl
  | cons first set ih =>
    rw [List.flatMap_cons, has_append, ih]
    unfold CharSet.has
    rw [CharRange.any_without, List.any_cons]
    cases first.has c.toNat <;> cases range.has c.toNat <;> simp

theorem has_difference (set other : CharSet) (c : Char) :
    (set.difference other).has c = (set.has c && !other.has c) := by
  induction other generalizing set with
  | nil => simp [difference, CharSet.has]
  | cons range other ih =>
    have hstep : set.difference (range :: other) =
        difference (set.flatMap (·.without range)) other := rfl
    rw [hstep, ih, has_without]
    unfold CharSet.has
    rw [List.any_cons, Bool.not_or, Bool.and_assoc]

theorem has_intersection (set other : CharSet) (c : Char) :
    (set.intersection other).has c = (set.has c && other.has c) := by
  have hrange (range : CharRange) :
      CharSet.has (other.flatMap range.shared) c = (range.has c.toNat && other.has c) := by
    induction other with
    | nil => simp [CharSet.has]
    | cons first other ih =>
      rw [List.flatMap_cons, has_append, ih]
      unfold CharSet.has
      rw [CharRange.any_shared, List.any_cons, Bool.and_or_distrib_left]
  induction set with
  | nil => rfl
  | cons range set ih =>
    unfold intersection at ih ⊢
    rw [List.flatMap_cons, has_append, ih, hrange]
    unfold CharSet.has
    rw [List.any_cons, Bool.and_or_distrib_right]

theorem has_full (c : Char) : full.has c = true := by
  have hvalid : c.toNat.isValidChar := c.valid
  unfold Nat.isValidChar at hvalid
  unfold CharSet.has
  generalize c.toNat = code at hvalid
  rw [Bool.eq_iff_iff]
  simp [full, CharRange.has]
  omega

theorem has_complement (set : CharSet) (c : Char) : set.complement.has c = !set.has c := by
  rw [complement, has_difference, has_full, Bool.true_and]

end CharSet

end GladeGo.Pattern
