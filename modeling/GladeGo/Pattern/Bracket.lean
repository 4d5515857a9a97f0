import GladeGo.Pattern.Escape

/-! # Sets in brackets

A set in brackets is a row of characters, ranges and sets. Sets in a row are united; `&&`, `--` and
`~~` put what stands before them together with what follows, from the left. A set is read with a
stack of the brackets and operations that are not finished. -/

namespace GladeGo.Pattern

/-- Sets in a row, the last one first, and their stretch. -/
structure SetRow where
  span : Span
  sets : List SetExpression

/-- The row without sets at a cursor. -/
def SetRow.begin (cursor : Cursor) : SetRow := ⟨cursor.here, []⟩

/-- A row with one more set at its end. -/
def SetRow.push (row : SetRow) (set : SetExpression) : SetRow :=
  let start := if row.sets.isEmpty then set.span.start else row.span.start
  ⟨⟨start, set.span.stop⟩, set :: row.sets⟩

/-- A row as one set. -/
def SetRow.whole (row : SetRow) : SetExpression :=
  match row.sets with
  | [] => .empty row.span
  | [set] => set
  | sets => .union row.span sets.reverse

/-- What is not finished while a set is read. -/
inductive SetFrame where
  /-- A bracket, with the row that it stands in and the stretch up to the first set in it. -/
  | opened (outer : SetRow) (span : Span) (isNegated : Bool)
  /-- An operation, with the set before it. -/
  | operation (operation : SetOperation) (left : SetExpression)

/-- A set that is being read: the row at its end, and the frames around the row, innermost first. -/
structure SetReading where
  cursor : Cursor
  row : SetRow
  frames : List SetFrame

/-- The stretch of the innermost bracket. -/
def openedSpan (fallback : Span) : List SetFrame → Span
  | [] => fallback
  | .opened _ span _ :: _ => span
  | .operation .. :: frames => openedSpan fallback frames

/-- Fails as the innermost bracket is not closed. -/
def SetReading.refuseUnclosed {α : Type} (reading : SetReading) : Except Misreading α :=
  refuse .unclosedSet (openedSpan reading.cursor.here reading.frames)

/-- Puts a row together with the operation that it is the right side of. -/
def closeOperation (set : SetExpression) : List SetFrame → SetExpression × List SetFrame
  | .operation operation left :: frames =>
    (.operation ⟨left.span.start, set.span.stop⟩ operation left set, frames)
  | frames => (set, frames)

/-! ### Members -/

/-- Reads one member of a set: an escape or a character. -/
def readMember (cursor : Cursor) (c : Char) : Except Misreading (Expression × Cursor) :=
  if c = '\\' then readEscape cursor
  else .ok (.literal ⟨cursor.spanOfNext, c, false⟩, cursor.advance)

/-- The set that a member stands for. -/
def setOfMember : Expression → Except Misreading SetExpression
  | .literal written => .ok (.literal written)
  | .property named => .ok (.property named)
  | .shorthand span set isNegated => .ok (.shorthand span set isNegated)
  | member => refuse .notInSet member.span

/-- The character that a member stands for. -/
def literalOfMember : Expression → Except Misreading Literal
  | .literal written => .ok written
  | member => refuse .rangeBoundary member.span

/-- Reads a member that begins with `c`, or a range of characters. -/
def SetReading.readRange (reading : SetReading) (c : Char) : Except Misreading SetReading := do
  let (first, cursor) ← readMember reading.cursor c
  let cursor := cursor.skip
  match cursor.next? with
  | none => reading.refuseUnclosed
  | some dash =>
    let behind := cursor.secondCounting?
    if dash ≠ '-' || behind = some ']' || behind = some '-' then do
      .ok { reading with cursor, row := reading.row.push (← setOfMember first) }
    else
      let cursor := cursor.advanceSkip
      match cursor.next? with
      | none => reading.refuseUnclosed
      | some d => do
        let (last, cursor) ← readMember cursor d
        let span : Span := ⟨first.span.start, last.span.stop⟩
        let first ← literalOfMember first
        let last ← literalOfMember last
        if last.char.toNat < first.char.toNat then refuse .rangeOrder span
        else .ok { reading with cursor, row := reading.row.push (.range span first last) }

/-- Reads a set of ASCII characters such as `[:alpha:]`, if one begins at a cursor. -/
def readAsciiSet (cursor : Cursor) : Option (SetExpression × Cursor) := do
  let named ← cursor.past? "[:"
  let (isNegated, named) := match named.past? "^" with
    | some named => (true, named)
    | none => (false, named)
  let name := String.ofList (named.rest.takeWhile (· != ':'))
  let set ← AsciiSet.all.find? (·.name == name)
  let after ← (← named.past? name).past? ":]"
  some (.ascii (after.since cursor.position) set isNegated, after)

/-! ### Brackets -/

/-- Reads the dashes at the start of a set, which stand for themselves. `start` is the position of
the bracket. -/
def readDashes (start : Position) (row : SetRow) (cursor : Cursor) :
    Except Misreading (SetRow × Cursor) :=
  match _h : cursor.rest with
  | [] => refuse .unclosedSet ⟨start, start⟩
  | c :: _ =>
    if c = '-' then
      readDashes start (row.push (.literal ⟨cursor.spanOfNext, c, false⟩)) cursor.advanceSkip
    else .ok (row, cursor)
termination_by cursor.rest.length
decreasing_by exact Cursor.advanceSkip_lt _h

/-- Opens a bracket: reads it, a negation, and the characters that stand for themselves at the start
of a set only. -/
def SetReading.openBracket (reading : SetReading) : Except Misreading SetReading := do
  let start := reading.cursor.position
  let cursor := reading.cursor.advanceSkip
  let isNegated := cursor.next? = some '^'
  let cursor := if isNegated then cursor.advanceSkip else cursor
  if cursor.isAtEnd then refuse .unclosedSet (cursor.since start)
  else
    let (row, cursor) ← readDashes start (.begin cursor) cursor
    if row.sets.isEmpty && cursor.next? = some ']' then
      let row := row.push (.literal ⟨cursor.spanOfNext, ']', false⟩)
      let cursor := cursor.advanceSkip
      if cursor.isAtEnd then refuse .unclosedSet (cursor.since start)
      else .ok ⟨cursor, row, .opened reading.row (cursor.since start) isNegated :: reading.frames⟩
    else .ok ⟨cursor, row, .opened reading.row (cursor.since start) isNegated :: reading.frames⟩

/-- Goes on behind an operation of two characters. -/
def SetReading.operate (reading : SetReading) (operation : SetOperation) : SetReading :=
  let cursor := reading.cursor.advance.advance
  let (left, frames) := closeOperation reading.row.whole reading.frames
  ⟨cursor, .begin cursor, .operation operation left :: frames⟩

/-- Closes a bracket. The set is finished if no other bracket is open. -/
def SetReading.closeBracket (reading : SetReading) : SetReading ⊕ (Expression × Cursor) :=
  let cursor := reading.cursor.advance
  let (set, frames) := closeOperation reading.row.whole reading.frames
  match frames with
  | .opened outer span isNegated :: frames =>
    let span := cursor.since span.start
    if frames.isEmpty then .inr (.bracketed span isNegated set, cursor)
    else .inl ⟨cursor, outer.push (.bracketed span isNegated set), frames⟩
  | frames => .inl ⟨cursor, reading.row, frames⟩

/-- The operation that two characters stand for. -/
def operationOf (c : Char) : Option SetOperation :=
  [('&', SetOperation.intersection), ('-', .difference), ('~', .symmetricDifference)].lookup c

/-- Reads the next part of a set, which begins with `c`. -/
def SetReading.step (reading : SetReading) (c : Char) :
    Except Misreading (SetReading ⊕ (Expression × Cursor)) :=
  if c = '[' then
    match readAsciiSet reading.cursor with
    | some (set, cursor) => .ok (.inl { reading with cursor, row := reading.row.push set })
    | none => reading.openBracket.map .inl
  else if c = ']' then .ok reading.closeBracket
  else
    match operationOf c with
    | some operation =>
      if reading.cursor.second? = some c then .ok (.inl (reading.operate operation))
      else (reading.readRange c).map .inl
    | none => (reading.readRange c).map .inl

/-- Reads the rest of a set. Each step gets on in the text. -/
def SetReading.finish (reading : SetReading) : Except Misreading (Expression × Cursor) :=
  let cursor := reading.cursor.skip
  match cursor.next? with
  | none => reading.refuseUnclosed
  | some c =>
    match { reading with cursor }.step c with
    | .error misreading => .error misreading
    | .ok (.inr result) => .ok result
    | .ok (.inl next) =>
      if _h : next.cursor.rest.length < reading.cursor.rest.length then next.finish
      else next.refuseUnclosed
termination_by reading.cursor.rest.length

/-- Reads a set in brackets. The cursor stands at the opening bracket. -/
def readSet (cursor : Cursor) : Except Misreading (Expression × Cursor) := do
  (← SetReading.openBracket ⟨cursor, .begin cursor, []⟩).finish

end GladeGo.Pattern
