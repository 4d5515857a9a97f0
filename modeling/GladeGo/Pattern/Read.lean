import GladeGo.Pattern.Group

/-! # Reading expressions

An expression is read from the left, with a stack of the groups and alternatives that are not
finished. Each part is read by a step that gets on in the text. -/

namespace GladeGo.Pattern

/-! ### Repetitions -/

/-- Reads decimal digits. -/
def readDigits (cursor : Cursor) : List Char × Cursor :=
  match _h : cursor.rest with
  | [] => ([], cursor)
  | c :: _ =>
    if c.isDigit then
      let (digits, cursor) := readDigits cursor.advanceSkip
      (c :: digits, cursor)
    else ([], cursor)
termination_by cursor.rest.length
decreasing_by exact Cursor.advanceSkip_lt _h

/-- Reads a number with blanks around it. The cursor gets past it even if it is no number. -/
def readCount (cursor : Cursor) : Except Misreading Nat × Cursor :=
  let cursor := cursor.trim
  let (digits, after) := readDigits cursor
  let span := after.since cursor.position
  let count :=
    if digits.isEmpty then refuse .missingCount span
    else match Text.readNat 10 maxNumber digits with
      | .error _ => refuse .badNumber span
      | .ok count => .ok count
  (count, after.trim)

/-- Reads how often something is repeated, up to the closing brace. The cursor stands behind the
opening brace, which is at `opened`. -/
def readBounds (opened : Position) (cursor : Cursor) :
    Except Misreading (Nat × Option Nat × Cursor) :=
  let (least, cursor) := readCount cursor
  match cursor.next? with
  | none => refuse .unclosedCount (cursor.since opened)
  | some ',' =>
    let cursor := cursor.advanceSkip
    match cursor.next? with
    | none => refuse .unclosedCount (cursor.since opened)
    | some '}' => do .ok (← least, none, cursor)
    | some _ => do
      let least ← least
      let (most, cursor) := readCount cursor
      .ok (least, some (← most), cursor)
  | some _ => do
    let least ← least
    .ok (least, some least, cursor)

/-- Reads a repetition in braces: its bounds, and the cursor behind it. -/
def readCounted (cursor : Cursor) : Except Misreading (Nat × Option Nat × Cursor) := do
  let opened := cursor.position
  let cursor := cursor.advanceSkip
  if cursor.isAtEnd then refuse .unclosedCount (cursor.since opened)
  else
    let (least, most, cursor) ← readBounds opened cursor
    if cursor.next? ≠ some '}' then refuse .unclosedCount (cursor.since opened)
    else
      let cursor := cursor.advanceSkip
      let cursor := if cursor.next? = some '?' then cursor.advance else cursor
      if most.any (· < least) then refuse .countOrder (cursor.since opened)
      else .ok (least, most, cursor)

/-! ### The stack -/

/-- What is not finished while an expression is read. -/
inductive Frame where
  /-- A group, with the sequence that it stands in, the start of this sequence, and whether blanks
  count in it. -/
  | group (before : List Expression) (start : Position) (span : Span) (kind : GroupKind)
    (ignoresBlanks : Bool)
  /-- Alternatives that begin at a position, the last one first. -/
  | alternatives (start : Position) (expressions : List Expression)

/-- An expression that is being read: the sequence at its end, the last part first, with its start,
and the frames around it, innermost first. -/
structure Reading where
  cursor : Cursor
  start : Position
  parts : List Expression
  frames : List Frame
  names : GroupNames

/-- The sequence at the end as one expression. -/
def Reading.sequence (reading : Reading) : Expression :=
  let span := reading.cursor.since reading.start
  match reading.parts with
  | [] => .empty span
  | [part] => part
  | parts => .sequence span parts.reverse

/-- Puts a part at the end of the sequence. -/
def Reading.push (reading : Reading) (part : Expression) (cursor : Cursor) : Reading :=
  { reading with cursor, parts := part :: reading.parts }

/-- Puts the sequence at the end together with the alternatives before it. -/
def Reading.closeAlternatives (reading : Reading) : Expression × List Frame :=
  match reading.frames with
  | .alternatives start expressions :: frames =>
    (.alternatives (reading.cursor.since start) (reading.sequence :: expressions).reverse, frames)
  | frames => (reading.sequence, frames)

/-! ### Steps -/

/-- Reads an opening parenthesis. -/
def Reading.openGroup (reading : Reading) : Except Misreading Reading := do
  let (opening, names, cursor) ← readOpening reading.names reading.cursor
  match opening with
  | .flags span items =>
    let ignoresBlanks := (switches .ignoreBlanks items).getD cursor.ignoresBlanks
    .ok ({ reading with names }.push (.flags span items) { cursor with ignoresBlanks })
  | .group span kind =>
    let items := match kind with
      | .keep => []
      | .flags items => items
    let ignoresBlanks := (switches .ignoreBlanks items).getD cursor.ignoresBlanks
    let frame := .group reading.parts reading.start span kind cursor.ignoresBlanks
    .ok ⟨{ cursor with ignoresBlanks }, cursor.position, [], frame :: reading.frames, names⟩

/-- Reads a closing parenthesis. -/
def Reading.closeGroup (reading : Reading) : Except Misreading Reading :=
  let (content, frames) := reading.closeAlternatives
  match frames with
  | .group before start span kind ignoresBlanks :: frames =>
    let cursor := { reading.cursor.advance with ignoresBlanks }
    let group := Expression.group (cursor.since span.start) kind content
    .ok ⟨cursor, start, group :: before, frames, reading.names⟩
  | _ => refuse .unopenedGroup reading.cursor.spanOfNext

/-- Reads a bar between alternatives. -/
def Reading.nextAlternative (reading : Reading) : Reading :=
  let frames := match reading.frames with
    | .alternatives start expressions :: frames =>
      .alternatives start (reading.sequence :: expressions) :: frames
    | frames => .alternatives reading.start [reading.sequence] :: frames
  let cursor := reading.cursor.advance
  ⟨cursor, cursor.position, [], frames, reading.names⟩

/-- The part that a repetition is for, and the parts before it. -/
def Reading.repeatable (reading : Reading) : Except Misreading (Expression × List Expression) :=
  match reading.parts with
  | [] | .empty _ :: _ | .flags .. :: _ => refuse .nothingToRepeat reading.cursor.here
  | part :: parts => .ok (part, parts)

/-- Reads a repetition in braces. -/
def Reading.repeatCounted (reading : Reading) : Except Misreading Reading := do
  let (part, parts) ← reading.repeatable
  let (least, most, cursor) ← readCounted reading.cursor
  let span : Span := ⟨part.span.start, cursor.position⟩
  .ok { reading with cursor, parts := .repeated span part least most :: parts }

/-- Reads a repetition of one character. A question mark behind it asks for short parts. -/
def Reading.repeatBy (reading : Reading) (least : Nat) (most : Option Nat) :
    Except Misreading Reading := do
  let (part, parts) ← reading.repeatable
  let cursor := reading.cursor.advance
  let cursor := if cursor.next? = some '?' then cursor.advance else cursor
  let span : Span := ⟨part.span.start, cursor.position⟩
  .ok { reading with cursor, parts := .repeated span part least most :: parts }

/-- Reads the part that begins with `c`. -/
def Reading.readPart (reading : Reading) (c : Char) : Except Misreading Reading := do
  let cursor := reading.cursor
  let span := cursor.spanOfNext
  if c = '[' then
    let (set, cursor) ← readSet cursor
    .ok (reading.push set cursor)
  else if c = '\\' then
    let (part, cursor) ← readEscape cursor
    .ok (reading.push part cursor)
  else if c = '.' then .ok (reading.push (.dot span) cursor.advance)
  else if c = '^' then .ok (reading.push (.condition span .lineStart) cursor.advance)
  else if c = '$' then .ok (reading.push (.condition span .lineEnd) cursor.advance)
  else .ok (reading.push (.literal ⟨span, c, false⟩) cursor.advance)

/-- Reads what begins with `c`. -/
def Reading.step (reading : Reading) (c : Char) : Except Misreading Reading :=
  if c = '(' then reading.openGroup
  else if c = ')' then reading.closeGroup
  else if c = '|' then .ok reading.nextAlternative
  else if c = '?' then reading.repeatBy 0 (some 1)
  else if c = '*' then reading.repeatBy 0 none
  else if c = '+' then reading.repeatBy 1 none
  else if c = '{' then reading.repeatCounted
  else reading.readPart c

/-- Ends an expression. No group may be open. -/
def Reading.close (reading : Reading) : Except Misreading Expression :=
  match reading.closeAlternatives with
  | (expression, []) => .ok expression
  | (_, .group _ _ span _ _ :: _) => refuse .unclosedGroup span
  | (expression, .alternatives .. :: _) => .ok expression

/-- Reads the rest of an expression. Each step gets on in the text. -/
def Reading.finish (reading : Reading) : Except Misreading Expression :=
  let skipped := { reading with cursor := reading.cursor.skip }
  match skipped.cursor.next? with
  | none => skipped.close
  | some c =>
    match skipped.step c with
    | .error misreading => .error misreading
    | .ok next =>
      if _h : next.cursor.rest.length < reading.cursor.rest.length then next.finish
      else next.close
termination_by reading.cursor.rest.length

/-- Reads a pattern. Its parts are not nested too deeply. -/
def readExpression (text : List Char) : Except Misreading Expression := do
  let cursor := Cursor.start text
  let expression ← Reading.finish ⟨cursor, cursor.position, [], [], []⟩
  match expression.tooDeep maxDepth with
  | some span => refuse .tooDeep span
  | none => .ok expression

end GladeGo.Pattern
