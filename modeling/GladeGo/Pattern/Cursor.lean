import GladeGo.Pattern.Expression
import GladeGo.Text.Blank

/-! # Reading patterns

A cursor stands at a place in a pattern, before what is left to read. Where the flag for it is on,
blanks between the parts of a pattern, and comments from `#` to the end of the line, do not count.
`advanceSkip_lt` says that a cursor that is not at the end gets on. -/

namespace GladeGo.Pattern

open GladeGo.Text (isBlank)

/-- A place in a pattern while it is read. -/
structure Cursor where
  rest : List Char
  position : Position
  /-- Whether blanks and comments between the parts do not count. -/
  ignoresBlanks : Bool
  deriving Repr, DecidableEq

/-- Leaves out blanks and comments. A comment ends with its line. -/
def skipBlanks (isComment : Bool) (position : Position) : List Char → List Char × Position
  | [] => ([], position)
  | c :: cs =>
    if isComment then skipBlanks (c != '\n') (position.after c) cs
    else if isBlank c then skipBlanks false (position.after c) cs
    else if c = '#' then skipBlanks true (position.after c) cs
    else (c :: cs, position)

theorem skipBlanks_le (isComment : Bool) (position : Position) (cs : List Char) :
    (skipBlanks isComment position cs).1.length ≤ cs.length := by
  induction cs generalizing isComment position with
  | nil => simp [skipBlanks]
  | cons c cs ih =>
    unfold skipBlanks
    have hcons : cs.length ≤ (c :: cs).length := Nat.le_succ _
    split
    · exact Nat.le_trans (ih _ _) hcons
    split
    · exact Nat.le_trans (ih _ _) hcons
    split
    · exact Nat.le_trans (ih _ _) hcons
    · exact Nat.le_refl _

namespace Cursor

/-- The cursor at the start of a text. -/
def start (text : List Char) : Cursor := ⟨text, ⟨1, 1⟩, false⟩

/-- Gets past one character. -/
def advance (cursor : Cursor) : Cursor :=
  match cursor.rest with
  | [] => cursor
  | c :: rest => { cursor with rest, position := cursor.position.after c }

/-- Gets past blanks and comments that do not count. -/
def skip (cursor : Cursor) : Cursor :=
  if cursor.ignoresBlanks then
    let (rest, position) := skipBlanks false cursor.position cursor.rest
    { cursor with rest, position }
  else cursor

/-- Gets past one character, and past the blanks and comments behind it. -/
def advanceSkip (cursor : Cursor) : Cursor := cursor.advance.skip

theorem skip_le (cursor : Cursor) : cursor.skip.rest.length ≤ cursor.rest.length := by
  unfold skip
  split
  · exact skipBlanks_le _ _ _
  · exact Nat.le_refl _

theorem advance_lt {cursor : Cursor} {c : Char} {rest : List Char} (h : cursor.rest = c :: rest) :
    cursor.advance.rest.length < cursor.rest.length := by
  simp [advance, h]

theorem advanceSkip_lt {cursor : Cursor} {c : Char} {rest : List Char}
    (h : cursor.rest = c :: rest) : cursor.advanceSkip.rest.length < cursor.rest.length :=
  Nat.lt_of_le_of_lt (skip_le _) (advance_lt h)

/-- Gets past all blanks, whether or not they count, and past comments that do not. -/
def trim (cursor : Cursor) : Cursor :=
  match _h : cursor.rest with
  | [] => cursor
  | c :: _ => if isBlank c then cursor.advanceSkip.trim else cursor
termination_by cursor.rest.length
decreasing_by exact advanceSkip_lt _h

/-- The next character. -/
def next? (cursor : Cursor) : Option Char := cursor.rest.head?

/-- Whether nothing is left. -/
def isAtEnd (cursor : Cursor) : Bool := cursor.rest.isEmpty

/-- The cursor behind a word, if the word comes next. -/
def past? (cursor : Cursor) (word : String) : Option Cursor :=
  if word.toList.isPrefixOf cursor.rest then
    some (word.toList.foldl (fun cursor _ => cursor.advance) cursor)
  else none

/-- The first character that counts, if any. A second `#` in a row of comments counts. -/
def firstCounting (isComment : Bool) : List Char → Option Char
  | [] => none
  | c :: cs =>
    if isBlank c then firstCounting isComment cs
    else if !isComment && c == '#' then firstCounting true cs
    else some c

/-- The character behind the next one. -/
def second? (cursor : Cursor) : Option Char := cursor.rest.tail.head?

/-- The character that counts behind the next one, or any character if none counts. -/
def secondCounting? (cursor : Cursor) : Option Char :=
  if cursor.ignoresBlanks then
    (firstCounting false cursor.rest.tail).or cursor.rest.tail.head?
  else cursor.second?

/-- The empty stretch at a cursor. -/
def here (cursor : Cursor) : Span := ⟨cursor.position, cursor.position⟩

/-- The stretch of the next character. -/
def spanOfNext (cursor : Cursor) : Span := ⟨cursor.position, cursor.advance.position⟩

/-- The stretch from a position to a cursor. -/
def since (cursor : Cursor) (position : Position) : Span := ⟨position, cursor.position⟩

end Cursor

/-- Fails with a cause at a stretch. -/
def refuse {α : Type} (cause : Cause) (span : Span) : Except Misreading α :=
  .error ⟨cause, span, none⟩

/-- Fails with a cause at a stretch that is at odds with an earlier one. -/
def refuseAgain {α : Type} (cause : Cause) (span earlier : Span) : Except Misreading α :=
  .error ⟨cause, span, some earlier⟩

end GladeGo.Pattern
