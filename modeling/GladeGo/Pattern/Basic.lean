import GladeGo.Pattern.CharSet

/-! # Patterns

A pattern describes parts of texts. It is searched for by sets of places in the text, given as one
mark for each place: before each character, and at the end. A pattern leads from the marked places
at which a part may begin to the places at which a part that it describes ends. `length_reach` says
that there is still one mark for each place then. -/

namespace GladeGo

namespace Pattern

/-- Where a place lies on the edges of words. -/
inductive WordEdge where
  | boundary
  | inside
  | start
  | stop
  /-- No word ends at the place. -/
  | startHalf
  /-- No word begins at the place. -/
  | stopHalf
  deriving Repr, DecidableEq

/-- A condition on a place in a text. -/
inductive Look where
  | textStart
  | textEnd
  | lineStart
  | lineEnd
  /-- Lines end in a carriage return, a line feed, or both. -/
  | anyLineStart
  | anyLineEnd
  /-- An edge of words that are made of ASCII letters, digits and underscores. -/
  | asciiWord (edge : WordEdge)
  /-- An edge of words by the Unicode property of word characters. This property is not at hand, and
  the condition never holds. -/
  | unicodeWord (edge : WordEdge)
  deriving Repr, DecidableEq

end Pattern

/-- A description of parts of texts. -/
inductive Pattern where
  | empty
  /-- One character of a set. -/
  | character (set : Pattern.CharSet)
  /-- The empty part at a place with a condition. -/
  | look (look : Pattern.Look)
  | sequence (first second : Pattern)
  | either (first second : Pattern)
  /-- At least `least` parts in a row, and at most `most` if there is a limit. -/
  | repeated (pattern : Pattern) (least : Nat) (most : Option Nat)
  /-- A part that is kept apart. -/
  | group (pattern : Pattern)
  deriving Repr

namespace Pattern

/-! ### Conditions -/

/-- The characters on both sides of a place. -/
structure Surroundings where
  before : Option Char
  after : Option Char

/-- The surroundings of the places in a text that stands after `before`. -/
def surroundings (before : Option Char) : List Char → List Surroundings
  | [] => [⟨before, none⟩]
  | c :: cs => ⟨before, some c⟩ :: surroundings (some c) cs

/-- Whether `c` belongs to words in ASCII. -/
def isWordChar (c : Char) : Bool := c.isAlphanum || c == '_'

/-- Whether a place has an edge of words, given whether word characters stand before and after it.
-/
def WordEdge.holds (edge : WordEdge) (before after : Bool) : Bool :=
  match edge with
  | .boundary => before != after
  | .inside => before == after
  | .start => !before && after
  | .stop => before && !after
  | .startHalf => !before
  | .stopHalf => !after

/-- Whether a condition holds at a place. -/
def Look.holds (look : Look) (place : Surroundings) : Bool :=
  match look with
  | .textStart => place.before.isNone
  | .textEnd => place.after.isNone
  | .lineStart => place.before.all (· == '\n')
  | .lineEnd => place.after.all (· == '\n')
  | .anyLineStart =>
    place.before.all (· == '\n') || (place.before == some '\r' && place.after != some '\n')
  | .anyLineEnd =>
    place.after.all (· == '\r') || (place.after == some '\n' && place.before != some '\r')
  | .asciiWord edge => edge.holds (place.before.any isWordChar) (place.after.any isWordChar)
  | .unicodeWord _ => false

/-! ### Searching -/

/-- Does a step up to `n` times, and no longer than it changes something. -/
def repeatStep (step : List Bool → List Bool) : Nat → List Bool → List Bool
  | 0, marks => marks
  | n + 1, marks =>
    let next := step marks
    if next = marks then marks else repeatStep step n next

/-- The places marked in one of two ways. -/
def union (marks others : List Bool) : List Bool := List.zipWith or marks others

/-- The places at which parts of the text `cs` end that the pattern describes and that begin at
marked places. -/
def reach (cs : List Char) : Pattern → List Bool → List Bool
  | .empty, marks => marks
  | .character set, marks => false :: List.zipWith (fun mark c => mark && set.has c) marks cs
  | .look test, marks =>
    List.zipWith (fun mark place => mark && test.holds place) marks (surroundings none cs)
  | .sequence first second, marks => reach cs second (reach cs first marks)
  | .either first second, marks => union (reach cs first marks) (reach cs second marks)
  | .repeated pattern least most, marks =>
    let more := match most with
      | none => marks.length
      | some most => min (most - least) marks.length
    let reached := repeatStep (reach cs pattern) least marks
    repeatStep (fun marks => union marks (reach cs pattern marks)) more reached
  | .group pattern, marks => reach cs pattern marks

theorem length_surroundings (before : Option Char) (cs : List Char) :
    (surroundings before cs).length = cs.length + 1 := by
  induction cs generalizing before with
  | nil => rfl
  | cons c cs ih => simp [surroundings, ih]

theorem length_repeatStep {step : List Bool → List Bool} {size : Nat}
    (hstep : ∀ marks, marks.length = size → (step marks).length = size) (n : Nat)
    {marks : List Bool} (h : marks.length = size) : (repeatStep step n marks).length = size := by
  induction n generalizing marks with
  | zero => exact h
  | succ n ih =>
    unfold repeatStep
    dsimp only
    split
    · exact h
    · exact ih (hstep marks h)

theorem length_reach (cs : List Char) (pattern : Pattern) {marks : List Bool}
    (h : marks.length = cs.length + 1) : (reach cs pattern marks).length = cs.length + 1 := by
  induction pattern generalizing marks with
  | empty => exact h
  | character set => simp [reach, h]
  | look test => simp [reach, h, length_surroundings]
  | sequence first second ihFirst ihSecond => exact ihSecond (ihFirst h)
  | either first second ihFirst ihSecond => simp [reach, union, ihFirst h, ihSecond h]
  | repeated pattern least most ih =>
    unfold reach
    refine length_repeatStep (fun marks hmarks => ?_) _ (length_repeatStep (fun _ => ih) least h)
    simp [union, hmarks, ih hmarks]
  | group pattern ih => exact ih h

/-- Whether a text has a part that the pattern describes. -/
def isFoundIn (pattern : Pattern) (text : String) : Bool :=
  (pattern.reach text.toList (List.replicate (text.length + 1) true)).contains true

/-! ### Building patterns -/

/-- Parts in a row. -/
def inOrder : List Pattern → Pattern
  | [] => .empty
  | [pattern] => pattern
  | pattern :: patterns => .sequence pattern (inOrder patterns)

/-- One of several parts. -/
def anyOf : List Pattern → Pattern
  | [] => .empty
  | [pattern] => pattern
  | pattern :: patterns => .either pattern (anyOf patterns)

/-- Whether a pattern describes empty parts only. -/
def isWidthless : Pattern → Bool
  | .empty => true
  | .character _ => false
  | .look _ => true
  | .sequence first second => first.isWidthless && second.isWidthless
  | .either first second => first.isWidthless && second.isWidthless
  | .repeated pattern _ most => most == some 0 || pattern.isWidthless
  | .group pattern => pattern.isWidthless

/-- A part repeated. More than one empty part in a row is as good as one. -/
def times (pattern : Pattern) (least : Nat) (most : Option Nat) : Pattern :=
  let least' := if pattern.isWidthless then min least 1 else least
  let most' := if pattern.isWidthless then some (min (most.getD 1) 1) else most
  if most' = some 0 then .empty
  else if least' = 1 && most' = some 1 then pattern
  else .repeated pattern least' most'

/-! ### The size of patterns -/

/-- Whether a pattern looks for edges of words in Unicode. -/
def needsUnicodeWords : Pattern → Bool
  | .look (.unicodeWord _) => true
  | .empty | .character _ | .look _ => false
  | .sequence first second => first.needsUnicodeWords || second.needsUnicodeWords
  | .either first second => first.needsUnicodeWords || second.needsUnicodeWords
  | .repeated pattern _ _ => pattern.needsUnicodeWords
  | .group pattern => pattern.needsUnicodeWords

/-- The bytes that one state of a machine takes. -/
def stateSize : Nat := 32

/-- About the bytes that a machine takes which reads a character of a set: one state for each byte
of a single character, two states for an ASCII set, nine for any other set, and eight bytes for each
range. -/
def CharSet.size (set : CharSet) : Nat :=
  match set with
  | [⟨first, last⟩] =>
    if first = last then stateSize * (Char.ofNat first).utf8Size
    else if set.isAscii then 2 * stateSize + 8
    else 9 * stateSize + 8
  | _ => (if set.isAscii then 2 else 9) * stateSize + 8 * set.length

/-- About the bytes that a machine takes which searches for a pattern. Each repetition up to a limit
has states of its own. -/
def size : Pattern → Nat
  | .empty => stateSize
  | .character set => set.size
  | .look _ => stateSize
  | .sequence first second => first.size + second.size
  | .either first second => first.size + second.size + 2 * stateSize + 8
  | .repeated pattern least none => max least 1 * pattern.size + stateSize + 8
  | .repeated pattern least (some most) =>
    least * pattern.size + (most - least) * (pattern.size + stateSize + 8) + stateSize
  | .group pattern => pattern.size + 2 * stateSize

end Pattern

end GladeGo
