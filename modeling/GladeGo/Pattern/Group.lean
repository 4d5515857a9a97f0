import GladeGo.Pattern.Bracket
import GladeGo.Text.Alphabetic

/-! # Parentheses

What follows an opening parenthesis: a name for the group, flags for it, or flags for what follows.
The names of groups are distinct. -/

namespace GladeGo.Pattern

/-- The names of the groups read so far, with their stretches. -/
abbrev GroupNames := List (List Char × Span)

/-- What an opening parenthesis begins. -/
inductive Opening where
  /-- A group. The stretch is that of the parenthesis. -/
  | group (span : Span) (kind : GroupKind)
  /-- Flags for what follows. -/
  | flags (span : Span) (items : List FlagItem)

/-- The flag, or the negation, that a character stands for. -/
def flagItemOf (c : Char) : Option FlagItem :=
  [('-', FlagItem.negation), ('i', .flag .ignoreCase), ('m', .flag .manyLines),
    ('s', .flag .dotMatchesAll), ('U', .flag .swapGreed), ('u', .flag .unicode),
    ('R', .flag .anyLineEnd), ('x', .flag .ignoreBlanks)].lookup c

/-- Reads flags up to a colon or a closing parenthesis, which the cursor is left at. `seen` holds
the flags read so far, the last one first. -/
def readFlags (seen : List (FlagItem × Span)) (cursor : Cursor) :
    Except Misreading (List FlagItem × Cursor) :=
  match _h : cursor.rest with
  | [] => refuse .missingFlag cursor.here
  | c :: _ =>
    if c = ':' || c = ')' then
      match seen with
      | (.negation, span) :: _ => refuse .danglingNegation span
      | seen => .ok (seen.reverse.map Prod.fst, cursor)
    else
      match flagItemOf c with
      | none => refuse .unknownFlag cursor.spanOfNext
      | some item =>
        match seen.lookup item with
        | none => readFlags ((item, cursor.spanOfNext) :: seen) cursor.advance
        | some earlier =>
          let cause := if item = .negation then Cause.repeatedNegation else .repeatedFlag
          refuseAgain cause cursor.spanOfNext earlier
termination_by cursor.rest.length
decreasing_by exact Cursor.advance_lt _h

/-- Whether `c` may begin the name of a group. -/
def beginsName (c : Char) : Bool := c == '_' || Text.isAlphabetic c

/-- Whether `c` may stand in the name of a group behind its first character. -/
def continuesName (c : Char) : Bool :=
  c == '_' || c == '.' || c == '[' || c == ']' || Text.isAlphabetic c || Text.isNumeric c

/-- Reads the characters of a name up to a closing bracket, which the cursor is left at. -/
def readNameChars (isAllowed : Char → Bool) (cursor : Cursor) :
    Except Misreading (List Char × Cursor) :=
  match _h : cursor.rest with
  | [] => refuse .unclosedName cursor.here
  | c :: _ =>
    if c = '>' then .ok ([], cursor)
    else if isAllowed c then do
      let (name, cursor) ← readNameChars continuesName cursor.advance
      .ok (c :: name, cursor)
    else refuse .badName cursor.spanOfNext
termination_by cursor.rest.length
decreasing_by exact Cursor.advance_lt _h

/-- Reads the name of a group and the bracket behind it. -/
def readName (names : GroupNames) (cursor : Cursor) : Except Misreading (GroupNames × Cursor) := do
  let (name, after) ← readNameChars beginsName cursor
  let span := after.since cursor.position
  if name.isEmpty then refuse .emptyName cursor.here
  else
    match names.lookup name with
    | some earlier => refuseAgain .repeatedName span earlier
    | none => .ok ((name, span) :: names, after.advance)

/-- The cursor behind the first of several words that comes next. -/
def Cursor.pastAny? (cursor : Cursor) (words : List String) : Option Cursor :=
  words.findSome? cursor.past?

/-- Reads an opening parenthesis and what belongs to it. Flags that set nothing are taken for a
repetition of nothing. -/
def readOpening (names : GroupNames) (cursor : Cursor) :
    Except Misreading (Opening × GroupNames × Cursor) :=
  let span := cursor.spanOfNext
  let inner := cursor.advanceSkip
  match inner.pastAny? ["?=", "?!", "?<=", "?<!"] with
  | some after => refuse .lookAround (after.since cursor.position)
  | none =>
    match inner.pastAny? ["?P<", "?<"], inner.past? "?" with
    | some named, _ => do
      let (names, after) ← readName names named
      .ok (.group span .keep, names, after)
    | none, some flagged =>
      if flagged.isAtEnd then refuse .unclosedGroup span
      else do
        let (items, after) ← readFlags [] flagged
        let closed := after.advance
        if after.next? = some ':' then .ok (.group span (.flags items), names, closed)
        else if items.isEmpty then refuse .nothingToRepeat inner.here
        else .ok (.flags (closed.since cursor.position) items, names, closed)
    | none, none => .ok (.group span .keep, names, inner)

end GladeGo.Pattern
