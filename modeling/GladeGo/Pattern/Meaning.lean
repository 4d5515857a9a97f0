import GladeGo.Pattern.Read

/-! # The meaning of expressions

Flags decide what an expression means. Flags set by a part hold up to the end of the group around
it. Patterns describe characters: without the flag for Unicode, only parts that are ASCII can be
told from bytes, and sets by Unicode properties, and cases and shorthands in Unicode, are not at
hand. -/

namespace GladeGo.Pattern

/-- The flags that decide about meaning. -/
structure Flags where
  ignoreCase : Bool := false
  manyLines : Bool := false
  dotMatchesAll : Bool := false
  anyLineEnd : Bool := false
  unicode : Bool := true

/-- Flags switched by a list of flags. -/
def Flags.switchedBy (flags : Flags) (items : List FlagItem) : Flags where
  ignoreCase := (switches .ignoreCase items).getD flags.ignoreCase
  manyLines := (switches .manyLines items).getD flags.manyLines
  dotMatchesAll := (switches .dotMatchesAll items).getD flags.dotMatchesAll
  anyLineEnd := (switches .anyLineEnd items).getD flags.anyLineEnd
  unicode := (switches .unicode items).getD flags.unicode

/-! ### Characters -/

/-- Refuses a byte outside ASCII, which is no character. -/
def Literal.checkByte (written : Literal) (flags : Flags) : Except Misreading Unit :=
  if !flags.unicode && written.isByte && 0x7f < written.char.toNat then
    refuse .notUtf8 written.span
  else .ok ()

/-- The characters that a character stands for by itself. -/
def Literal.chars (written : Literal) (flags : Flags) : Except Misreading CharSet := do
  written.checkByte flags
  let set := CharSet.single written.char
  if !flags.ignoreCase then .ok set
  else if flags.unicode then refuse .unknownCase written.span
  else .ok set.withBothCases

/-- The character that a character stands for in a set. -/
def Literal.charInSet (written : Literal) (flags : Flags) : Except Misreading Char := do
  written.checkByte flags
  if !flags.unicode && 0x7f < written.char.toNat then refuse .notUnicode written.span
  else .ok written.char

/-- The name of a property by which it is looked up: in lower case, with nothing but ASCII, and
without `is` at the start, spaces, underscores and dashes. -/
def plainPropertyName (name : String) : String :=
  let lower := (name.toList.filter fun c => c.toNat < 0x80).map Char.toLower
  let isPrefixed := (name.toList.take 2).map Char.toLower == ['i', 's']
  let stem := if isPrefixed then lower.drop 2 else lower
  String.ofList (stem.filter fun c => c != ' ' && c != '_' && c != '-')

/-- Why a property gives no set. Three names are those of values, the others those of properties. -/
def Property.cause (property : Property) : Cause :=
  if !property.hasValue && ["cf", "sc", "lc"].contains (plainPropertyName property.name) then
    .unknownPropertyValue
  else .unknownProperty

/-- The characters with a property. No property is at hand. -/
def Property.chars (property : Property) (flags : Flags) : Except Misreading CharSet :=
  refuse (if flags.unicode then property.cause else .notUnicode) property.span

/-- The characters that are not in a set. Without Unicode, they are no characters. -/
def negate (flags : Flags) (span : Span) (isNegated : Bool) (set : CharSet) :
    Except Misreading CharSet :=
  if !isNegated then .ok set
  else if flags.unicode then .ok set.complement
  else refuse .notUtf8 span

/-- The characters of a set with a letter of its own. -/
def Shorthand.chars (set : Shorthand) (flags : Flags) (span : Span) (isNegated : Bool) :
    Except Misreading CharSet :=
  if flags.unicode then refuse .unknownShorthand span
  else negate flags span isNegated set.ascii.chars

/-! ### Sets -/

/-- Whether case makes no difference to a set, as no character is written in it. -/
def SetExpression.isCaseless : SetExpression → Bool
  | .literal _ | .range .. => false
  | .union _ sets => sets.all fun
    | .literal _ | .range .. => false
    | _ => true
  | _ => true

/-- A set with both cases of its letters, if case does not count. -/
def foldCase (flags : Flags) (span : Span) (isCaseless : Bool) (set : CharSet) :
    Except Misreading CharSet :=
  if !flags.ignoreCase then .ok set
  else if !flags.unicode then .ok set.withBothCases
  else if isCaseless then .ok set
  else refuse .unknownCase span

/-- Two sets put together. -/
def SetOperation.apply (operation : SetOperation) (left right : CharSet) : CharSet :=
  match operation with
  | .intersection => left.intersection right
  | .difference => left.difference right
  | .symmetricDifference => left.symmetricDifference right

mutual

/-- The characters of a set. -/
def SetExpression.chars (flags : Flags) : SetExpression → Except Misreading CharSet
  | .empty _ => .ok []
  | .literal written => do .ok (CharSet.single (← written.charInSet flags))
  | .range _ first last => do
    .ok (CharSet.between (← first.charInSet flags) (← last.charInSet flags))
  | .ascii span set isNegated => do
    negate flags span isNegated (← foldCase flags span false set.chars)
  | .property named => named.chars flags
  | .shorthand span set isNegated => set.chars flags span isNegated
  | .bracketed span isNegated set => do
    let chars ← set.chars flags
    negate flags span isNegated (← foldCase flags span set.isCaseless chars)
  | .union _ sets => unionChars flags sets
  | .operation _ operation left right => do
    let leftChars ← left.chars flags
    let rightChars ← right.chars flags
    let rightChars ← foldCase flags right.span right.isCaseless rightChars
    let leftChars ← foldCase flags left.span left.isCaseless leftChars
    .ok (operation.apply leftChars rightChars)

/-- The characters of several sets. -/
def unionChars (flags : Flags) : List SetExpression → Except Misreading CharSet
  | [] => .ok []
  | set :: sets => do
    let chars ← set.chars flags
    .ok (chars ++ (← unionChars flags sets))

end

/-! ### Expressions -/

/-- The characters that a dot stands for. -/
def dotChars (flags : Flags) (span : Span) : Except Misreading CharSet :=
  if !flags.unicode then refuse .notUtf8 span
  else if flags.dotMatchesAll then .ok .full
  else if flags.anyLineEnd then .ok (CharSet.complement (.single '\n' ++ .single '\r'))
  else .ok (CharSet.single '\n').complement

/-- The condition on a place that a written condition is. -/
def Condition.look (condition : Condition) (flags : Flags) : Look :=
  match condition with
  | .lineStart =>
    if !flags.manyLines then .textStart else if flags.anyLineEnd then .anyLineStart else .lineStart
  | .lineEnd =>
    if !flags.manyLines then .textEnd else if flags.anyLineEnd then .anyLineEnd else .lineEnd
  | .textStart => .textStart
  | .textEnd => .textEnd
  | .word edge => if flags.unicode then .unicodeWord edge else .asciiWord edge

mutual

/-- The pattern that an expression means, and the flags that hold behind it. -/
def Expression.pattern (flags : Flags) : Expression → Except Misreading (Pattern × Flags)
  | .empty _ => .ok (.empty, flags)
  | .flags _ items => .ok (.empty, flags.switchedBy items)
  | .literal written => do .ok (.character (← written.chars flags), flags)
  | .dot span => do .ok (.character (← dotChars flags span), flags)
  | .condition _ condition => .ok (.look (condition.look flags), flags)
  | .property named => do .ok (.character (← named.chars flags), flags)
  | .shorthand span set isNegated => do
    .ok (.character (← set.chars flags span isNegated), flags)
  | .bracketed span isNegated set => do
    let chars ← foldCase flags span set.isCaseless (← set.chars flags)
    .ok (.character (← negate flags span isNegated chars), flags)
  | .repeated _ expression least most => do
    let (pattern, flags) ← expression.pattern flags
    .ok (pattern.times least most, flags)
  | .group _ .keep expression => do
    let (pattern, _) ← expression.pattern flags
    .ok (.group pattern, flags)
  | .group _ (.flags items) expression => do
    let (pattern, _) ← expression.pattern (flags.switchedBy items)
    .ok (pattern, flags)
  | .alternatives _ expressions => do
    let (patterns, flags) ← patternsOf flags expressions
    .ok (anyOf patterns, flags)
  | .sequence _ expressions => do
    let (patterns, flags) ← patternsOf flags expressions
    .ok (inOrder patterns, flags)

/-- The patterns that expressions mean one after the other. -/
def patternsOf (flags : Flags) : List Expression → Except Misreading (List Pattern × Flags)
  | [] => .ok ([], flags)
  | expression :: expressions => do
    let (pattern, flags) ← expression.pattern flags
    let (patterns, flags) ← patternsOf flags expressions
    .ok (pattern :: patterns, flags)

end

/-- The number of bytes that a pattern may take. -/
def maxSize : Nat := 10485760

/-- The pattern that a text means. -/
def ofText (text : String) : Except PatternFault Pattern :=
  let read := do
    let expression ← readExpression text.toList
    expression.pattern {}
  match read with
  | .error misreading => .error (.unreadable text.toList misreading)
  | .ok (pattern, _) =>
    if maxSize < pattern.size then .error (.tooLarge maxSize)
    else if pattern.needsUnicodeWords then .error .wordEdges
    else .ok pattern

end GladeGo.Pattern
