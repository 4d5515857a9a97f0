import GladeGo.Pattern.Cursor

/-! # Escapes

What a backslash begins: characters by their code or by a letter, sets of characters, and
conditions on places. A backslash takes the meaning away from a punctuation mark. -/

namespace GladeGo.Pattern

open GladeGo.Text (readNat digitValue)

/-! ### Characters by their code -/

/-- The greatest number of 32 bits. -/
def maxNumber : Nat := 4294967295

/-- Whether `c` is a hexadecimal digit. -/
def isHexDigit (c : Char) : Bool := (digitValue c).isSome

/-- The character with the code that hexadecimal digits give. -/
def charOfHex (digits : List Char) : Option Char :=
  match readNat 16 maxNumber digits with
  | .error _ => none
  | .ok code => if h : code.isValidChar then some (Char.ofNatAux code h) else none

/-- Reads the given number of hexadecimal digits. -/
def readHexDigits : Nat → Cursor → Except Misreading (List Char × Cursor)
  | 0, cursor => .ok ([], cursor)
  | n + 1, cursor =>
    match cursor.next? with
    | none => refuse .unfinishedEscape cursor.here
    | some c =>
      if isHexDigit c then do
        let (digits, cursor) ← readHexDigits n cursor.advanceSkip
        .ok (c :: digits, cursor)
      else refuse .badHexDigit cursor.spanOfNext

/-- Reads hexadecimal digits up to a closing brace, which the cursor is left at. -/
def readHexUntilBrace (opened : Position) (cursor : Cursor) :
    Except Misreading (List Char × Cursor) :=
  match _h : cursor.rest with
  | [] => refuse .unfinishedEscape (cursor.since opened)
  | c :: _ =>
    if c = '}' then .ok ([], cursor)
    else if isHexDigit c then do
      let (digits, cursor) ← readHexUntilBrace opened cursor.advanceSkip
      .ok (c :: digits, cursor)
    else refuse .badHexDigit cursor.spanOfNext
termination_by cursor.rest.length
decreasing_by exact Cursor.advanceSkip_lt _h

/-- How many digits the code behind one of the letters `x`, `u` and `U` has. -/
def hexSize (letter : Char) : Nat := if letter = 'x' then 2 else if letter = 'u' then 4 else 8

/-- Reads the character whose code follows the given letter, at which the cursor stands. The escape
begins at `start`. -/
def readHex (start : Position) (letter : Char) (cursor : Cursor) :
    Except Misreading (Literal × Cursor) :=
  let cursor := cursor.advanceSkip
  match cursor.next? with
  | none => refuse .unfinishedEscape cursor.here
  | some '{' => do
    let opened := cursor.position
    let digitsStart := cursor.advance.position
    let (digits, cursor) ← readHexUntilBrace opened cursor.advanceSkip
    let digitsEnd := cursor.position
    let cursor := cursor.advanceSkip
    if digits.isEmpty then refuse .emptyHex (cursor.since opened)
    else match charOfHex digits with
      | none => refuse .notCharacter ⟨digitsStart, digitsEnd⟩
      | some char => .ok (⟨cursor.since start, char, false⟩, cursor)
  | some _ => do
    let digitsStart := cursor.position
    let (digits, cursor) ← readHexDigits (hexSize letter) cursor
    match charOfHex digits with
    | none => refuse .notCharacter (cursor.since digitsStart)
    | some char => .ok (⟨cursor.since start, char, letter = 'x'⟩, cursor)

/-! ### Sets by Unicode properties -/

/-- Reads the name of a property up to a closing brace, which the cursor is left at. -/
def readPropertyName (cursor : Cursor) : Except Misreading (List Char × Cursor) :=
  match _h : cursor.rest with
  | [] => refuse .unfinishedEscape cursor.here
  | c :: _ =>
    if c = '}' then .ok ([], cursor)
    else do
      let (name, cursor) ← readPropertyName cursor.advanceSkip
      .ok (c :: name, cursor)
termination_by cursor.rest.length
decreasing_by exact Cursor.advanceSkip_lt _h

/-- Reads the property behind the letter `p` or `P`, at which the cursor stands. -/
def readProperty (start : Position) (cursor : Cursor) : Except Misreading (Property × Cursor) :=
  let cursor := cursor.advanceSkip
  match cursor.next? with
  | none => refuse .unfinishedEscape cursor.here
  | some '{' => do
    let (name, cursor) ← readPropertyName cursor.advanceSkip
    let cursor := cursor.advance
    .ok (⟨cursor.since start, String.ofList name, name.contains ':' || name.contains '='⟩, cursor)
  | some '\\' => refuse .badProperty cursor.spanOfNext
  | some c =>
    let cursor := cursor.advanceSkip
    .ok (⟨cursor.since start, String.singleton c, false⟩, cursor)

/-! ### Edges of words -/

/-- Whether `c` may stand in the name of an edge of words. -/
def isEdgeChar (c : Char) : Bool := c.isAlpha || c == '-'

/-- Reads the characters that may stand in the name of an edge of words. -/
def readEdgeName (cursor : Cursor) : List Char × Cursor :=
  match _h : cursor.rest with
  | [] => ([], cursor)
  | c :: _ =>
    if isEdgeChar c then
      let (name, cursor) := readEdgeName cursor.advanceSkip
      (c :: name, cursor)
    else ([], cursor)
termination_by cursor.rest.length
decreasing_by exact Cursor.advanceSkip_lt _h

/-- The edge of words with a name. -/
def edgeNamed (name : String) : Option WordEdge :=
  [("start", WordEdge.start), ("end", .stop), ("start-half", .startHalf),
    ("end-half", .stopHalf)].lookup name

/-- Reads the condition that `\b` at `start` begins; the cursor stands behind the `b`. A name in
braces tells which edge of a word is meant. Other braces are left, as they hold a count. -/
def readWordEdge (start : Position) (cursor : Cursor) : Except Misreading (Expression × Cursor) :=
  let plain := (Expression.condition (cursor.since start) (.word .boundary), cursor)
  if cursor.next? = some '{' then
    let opened := cursor.position
    let named := cursor.advanceSkip
    match named.next? with
    | none => refuse .unfinishedWordEdge (named.since start)
    | some c =>
      if isEdgeChar c then
        let (name, cursor) := readEdgeName named
        if cursor.next? = some '}' then
          match edgeNamed (String.ofList name) with
          | none => refuse .unknownWordEdge (cursor.since named.position)
          | some edge =>
            let cursor := cursor.advance
            .ok (.condition (cursor.since start) (.word edge), cursor)
        else refuse .unclosedWordEdge (cursor.since opened)
      else .ok plain
  else .ok plain

/-! ### All escapes -/

/-- The characters that letters stand for. -/
def charOfLetter (letter : Char) : Option Char :=
  [('a', '\x07'), ('f', '\x0c'), ('t', '\t'), ('n', '\n'), ('r', '\r'), ('v', '\x0b')].lookup letter

/-- The conditions that characters stand for, apart from `b`. -/
def conditionOf (letter : Char) : Option Condition :=
  [('A', Condition.textStart), ('z', .textEnd), ('B', .word .inside), ('<', .word .start),
    ('>', .word .stop)].lookup letter

/-- The sets that letters stand for, and whether what is not in the set is meant. -/
def shorthandOf (letter : Char) : Option (Shorthand × Bool) :=
  [('d', (Shorthand.digit, false)), ('s', (.space, false)), ('w', (.word, false)),
    ('D', (.digit, true)), ('S', (.space, true)), ('W', (.word, true))].lookup letter

/-- Whether a backslash before `c` means the character itself. -/
def isPlainEscape (c : Char) : Bool :=
  c.toNat < 0x80 && !c.isAlphanum && c != '<' && c != '>'

/-- Reads an escape. The cursor stands at the backslash. -/
def readEscape (cursor : Cursor) : Except Misreading (Expression × Cursor) :=
  let start := cursor.position
  let cursor := cursor.advance
  let after := cursor.advance
  match cursor.next? with
  | none => refuse .unfinishedEscape (cursor.since start)
  | some c =>
    if c.isDigit then refuse .backreference (after.since start)
    else if c = 'x' || c = 'u' || c = 'U' then do
      let (read, cursor) ← readHex start c cursor
      .ok (.literal read, cursor)
    else if c = 'p' || c = 'P' then do
      let (read, cursor) ← readProperty start cursor
      .ok (.property read, cursor)
    else if c = 'b' then readWordEdge start after
    else if isPlainEscape c then .ok (.literal ⟨after.since start, c, false⟩, after)
    else
      match shorthandOf c, charOfLetter c, conditionOf c with
      | some (set, isNegated), _, _ => .ok (.shorthand (after.since start) set isNegated, after)
      | none, some char, _ => .ok (.literal ⟨after.since start, char, false⟩, after)
      | none, none, some condition => .ok (.condition (after.since start) condition, after)
      | none, none, none => refuse .unknownEscape (after.since start)

end GladeGo.Pattern
