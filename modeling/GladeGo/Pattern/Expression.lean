import GladeGo.Pattern.Basic
import GladeGo.Pattern.Fault

/-! # Expressions

What is written in a pattern, before the flags are applied to it. Each part has its stretch of the
text. -/

namespace GladeGo.Pattern

/-- A character as written. -/
structure Literal where
  span : Span
  char : Char
  /-- Whether it is written as two hexadecimal digits. Outside Unicode they stand for a byte. -/
  isByte : Bool
  deriving Repr, DecidableEq

/-- The sets with a letter of their own: `\d`, `\s` and `\w`. -/
inductive Shorthand where
  | digit
  | space
  | word
  deriving Repr, DecidableEq

/-- The sets of ASCII characters that have names. -/
inductive AsciiSet where
  | alnum
  | alpha
  | ascii
  | blank
  | cntrl
  | digit
  | graph
  | lower
  | print
  | punct
  | space
  | upper
  | word
  | xdigit
  deriving Repr, DecidableEq

/-- The name of a set of ASCII characters. -/
def AsciiSet.name : AsciiSet → String
  | .alnum => "alnum"
  | .alpha => "alpha"
  | .ascii => "ascii"
  | .blank => "blank"
  | .cntrl => "cntrl"
  | .digit => "digit"
  | .graph => "graph"
  | .lower => "lower"
  | .print => "print"
  | .punct => "punct"
  | .space => "space"
  | .upper => "upper"
  | .word => "word"
  | .xdigit => "xdigit"

/-- All sets of ASCII characters that have names. -/
def AsciiSet.all : List AsciiSet :=
  [.alnum, .alpha, .ascii, .blank, .cntrl, .digit, .graph, .lower, .print, .punct, .space, .upper,
    .word, .xdigit]

/-- The characters of a set of ASCII characters. -/
def AsciiSet.chars : AsciiSet → CharSet
  | .alnum => [⟨0x30, 0x39⟩, ⟨0x41, 0x5a⟩, ⟨0x61, 0x7a⟩]
  | .alpha => [⟨0x41, 0x5a⟩, ⟨0x61, 0x7a⟩]
  | .ascii => [⟨0x00, 0x7f⟩]
  | .blank => [⟨0x09, 0x09⟩, ⟨0x20, 0x20⟩]
  | .cntrl => [⟨0x00, 0x1f⟩, ⟨0x7f, 0x7f⟩]
  | .digit => [⟨0x30, 0x39⟩]
  | .graph => [⟨0x21, 0x7e⟩]
  | .lower => [⟨0x61, 0x7a⟩]
  | .print => [⟨0x20, 0x7e⟩]
  | .punct => [⟨0x21, 0x2f⟩, ⟨0x3a, 0x40⟩, ⟨0x5b, 0x60⟩, ⟨0x7b, 0x7e⟩]
  | .space => [⟨0x09, 0x0d⟩, ⟨0x20, 0x20⟩]
  | .upper => [⟨0x41, 0x5a⟩]
  | .word => [⟨0x30, 0x39⟩, ⟨0x41, 0x5a⟩, ⟨0x5f, 0x5f⟩, ⟨0x61, 0x7a⟩]
  | .xdigit => [⟨0x30, 0x39⟩, ⟨0x41, 0x46⟩, ⟨0x61, 0x66⟩]

/-- The ASCII characters of a set with a letter of its own. -/
def Shorthand.ascii : Shorthand → AsciiSet
  | .digit => .digit
  | .space => .space
  | .word => .word

/-- A set named by a Unicode property, or by a property and its value. -/
structure Property where
  span : Span
  name : String
  hasValue : Bool
  deriving Repr, DecidableEq

/-- How two sets are put together. -/
inductive SetOperation where
  | intersection
  | difference
  | symmetricDifference
  deriving Repr, DecidableEq

/-- A set as written in brackets. -/
inductive SetExpression where
  | empty (span : Span)
  | literal (literal : Literal)
  | range (span : Span) (first last : Literal)
  | ascii (span : Span) (set : AsciiSet) (isNegated : Bool)
  | property (property : Property)
  | shorthand (span : Span) (set : Shorthand) (isNegated : Bool)
  | bracketed (span : Span) (isNegated : Bool) (set : SetExpression)
  | union (span : Span) (sets : List SetExpression)
  | operation (span : Span) (operation : SetOperation) (left right : SetExpression)
  deriving Repr

/-- The stretch of a set. -/
def SetExpression.span : SetExpression → Span
  | .literal written => written.span
  | .property named => named.span
  | .empty span | .range span .. | .ascii span .. | .shorthand span .. | .bracketed span ..
  | .union span .. | .operation span .. => span

/-- A condition on a place as written. -/
inductive Condition where
  | lineStart
  | lineEnd
  | textStart
  | textEnd
  | word (edge : WordEdge)
  deriving Repr, DecidableEq

/-- A switch for the meaning of what follows. -/
inductive Flag where
  | ignoreCase
  | manyLines
  | dotMatchesAll
  | swapGreed
  | unicode
  | anyLineEnd
  | ignoreBlanks
  deriving Repr, DecidableEq

/-- What stands in a list of flags. Flags after a negation are switched off. -/
inductive FlagItem where
  | negation
  | flag (flag : Flag)
  deriving Repr, DecidableEq

/-- Whether a list of flags switches a flag on or off. -/
def switches (flag : Flag) (items : List FlagItem) : Option Bool :=
  if items.contains (.flag flag) then
    some (!(items.takeWhile (· != .flag flag)).contains .negation)
  else none

/-- What parentheses do besides holding parts together. -/
inductive GroupKind where
  /-- They keep the part apart. -/
  | keep
  /-- They set flags for what is in them. -/
  | flags (items : List FlagItem)
  deriving Repr, DecidableEq

/-- An expression as written. -/
inductive Expression where
  | empty (span : Span)
  | flags (span : Span) (items : List FlagItem)
  | literal (literal : Literal)
  | dot (span : Span)
  | condition (span : Span) (condition : Condition)
  | property (property : Property)
  | shorthand (span : Span) (set : Shorthand) (isNegated : Bool)
  | bracketed (span : Span) (isNegated : Bool) (set : SetExpression)
  | repeated (span : Span) (expression : Expression) (least : Nat) (most : Option Nat)
  | group (span : Span) (kind : GroupKind) (expression : Expression)
  | alternatives (span : Span) (expressions : List Expression)
  | sequence (span : Span) (expressions : List Expression)
  deriving Repr

/-- The stretch of an expression. -/
def Expression.span : Expression → Span
  | .literal written => written.span
  | .property named => named.span
  | .empty span | .flags span .. | .dot span | .condition span .. | .shorthand span ..
  | .bracketed span .. | .repeated span .. | .group span .. | .alternatives span ..
  | .sequence span .. => span

/-! ### Depth -/

mutual

/-- The first part of a set that lies too deep, below `left` more levels. -/
def SetExpression.tooDeep (left : Nat) : SetExpression → Option Span
  | .bracketed span _ set => if left = 0 then some span else set.tooDeep (left - 1)
  | .union span sets => if left = 0 then some span else anySetTooDeep (left - 1) sets
  | .operation span _ first second =>
    if left = 0 then some span
    else (first.tooDeep (left - 1)).or (second.tooDeep (left - 1))
  | .empty _ | .literal _ | .range .. | .ascii .. | .property _ | .shorthand .. => none

/-- The first part of the sets in a list that lies too deep. -/
def anySetTooDeep (left : Nat) : List SetExpression → Option Span
  | [] => none
  | set :: sets => (set.tooDeep left).or (anySetTooDeep left sets)

end

mutual

/-- The first part of an expression that lies too deep, below `left` more levels. -/
def Expression.tooDeep (left : Nat) : Expression → Option Span
  | .bracketed span _ set => if left = 0 then some span else set.tooDeep (left - 1)
  | .repeated span expression _ _ =>
    if left = 0 then some span else expression.tooDeep (left - 1)
  | .group span _ expression => if left = 0 then some span else expression.tooDeep (left - 1)
  | .alternatives span expressions =>
    if left = 0 then some span else anyTooDeep (left - 1) expressions
  | .sequence span expressions =>
    if left = 0 then some span else anyTooDeep (left - 1) expressions
  | .empty _ | .flags .. | .literal _ | .dot _ | .condition .. | .property _ | .shorthand .. => none

/-- The first part of the expressions in a list that lies too deep. -/
def anyTooDeep (left : Nat) : List Expression → Option Span
  | [] => none
  | expression :: expressions => (expression.tooDeep left).or (anyTooDeep left expressions)

end

end GladeGo.Pattern
