import GladeGo.Text.Numeral

/-! # Faults in patterns

A pattern is the text of a regular expression. What can be wrong with it, at which stretch of the
text, and the wording of each fault: the text with the stretch underlined, and below it the cause.
-/

namespace GladeGo.Pattern

open GladeGo.Text (showNat)

/-! ### Places in a pattern -/

/-- A place in a pattern: the number of its line, and of the character in the line that follows.
Both count from 1. -/
structure Position where
  line : Nat
  column : Nat
  deriving Repr, DecidableEq

/-- The place behind the character `c` at a place. -/
def Position.after (position : Position) (c : Char) : Position :=
  if c = '\n' then ⟨position.line + 1, 1⟩ else ⟨position.line, position.column + 1⟩

/-- A stretch of a pattern. -/
structure Span where
  start : Position
  stop : Position
  deriving Repr, DecidableEq

/-- Whether a stretch begins and ends on the same line. -/
def Span.isOnOneLine (span : Span) : Bool := span.start.line == span.stop.line

/-! ### Causes -/

/-- The greatest depth to which the parts of a pattern may be nested. -/
def maxDepth : Nat := 250

/-- What is wrong at a stretch of a pattern. -/
inductive Cause where
  | notInSet
  | rangeOrder
  | rangeBoundary
  | unclosedSet
  | badNumber
  | emptyHex
  | notCharacter
  | badHexDigit
  | unfinishedEscape
  | unknownEscape
  | danglingNegation
  | repeatedFlag
  | repeatedNegation
  | missingFlag
  | unknownFlag
  | repeatedName
  | emptyName
  | badName
  | unclosedName
  | unclosedGroup
  | unopenedGroup
  | tooDeep
  | countOrder
  | missingCount
  | unclosedCount
  | nothingToRepeat
  | unclosedWordEdge
  | unknownWordEdge
  | unfinishedWordEdge
  | badProperty
  | backreference
  | lookAround
  | notUnicode
  | notUtf8
  | unknownProperty
  | unknownPropertyValue
  | unknownShorthand
  | unknownCase
  deriving Repr, DecidableEq

/-- The wording of a cause. -/
def Cause.message : Cause → String
  | .notInSet => "invalid escape sequence found in character class"
  | .rangeOrder => "invalid character class range, the start must be <= the end"
  | .rangeBoundary => "invalid range boundary, must be a literal"
  | .unclosedSet => "unclosed character class"
  | .badNumber => "decimal literal invalid"
  | .emptyHex => "hexadecimal literal empty"
  | .notCharacter => "hexadecimal literal is not a Unicode scalar value"
  | .badHexDigit => "invalid hexadecimal digit"
  | .unfinishedEscape => "incomplete escape sequence, reached end of pattern prematurely"
  | .unknownEscape => "unrecognized escape sequence"
  | .danglingNegation => "dangling flag negation operator"
  | .repeatedFlag => "duplicate flag"
  | .repeatedNegation => "flag negation operator repeated"
  | .missingFlag => "expected flag but got end of regex"
  | .unknownFlag => "unrecognized flag"
  | .repeatedName => "duplicate capture group name"
  | .emptyName => "empty capture group name"
  | .badName => "invalid capture group character"
  | .unclosedName => "unclosed capture group name"
  | .unclosedGroup => "unclosed group"
  | .unopenedGroup => "unopened group"
  | .tooDeep =>
    "exceed the maximum number of nested parentheses/brackets (" ++ showNat maxDepth ++ ")"
  | .countOrder => "invalid repetition count range, the start must be <= the end"
  | .missingCount => "repetition quantifier expects a valid decimal"
  | .unclosedCount => "unclosed counted repetition"
  | .nothingToRepeat => "repetition operator missing expression"
  | .unclosedWordEdge =>
    "special word boundary assertion is either unclosed or contains an invalid character"
  | .unknownWordEdge =>
    "unrecognized special word boundary assertion, " ++
      "valid choices are: start, end, start-half or end-half"
  | .unfinishedWordEdge =>
    "found either the beginning of a special word boundary or a bounded repetition on a \\b " ++
      "with an opening brace, but no closing brace"
  | .badProperty => "invalid Unicode character class"
  | .backreference => "backreferences are not supported"
  | .lookAround => "look-around, including look-ahead and look-behind, is not supported"
  | .notUnicode => "Unicode not allowed here"
  | .notUtf8 => "pattern can match invalid UTF-8"
  | .unknownProperty => "Unicode property not found"
  | .unknownPropertyValue => "Unicode property value not found"
  | .unknownShorthand =>
    "Unicode-aware Perl class not found (make sure the unicode-perl feature is enabled)"
  | .unknownCase =>
    "Unicode-aware case insensitivity matching is not available " ++
      "(make sure the unicode-case feature is enabled)"

/-- A cause and where it stands. The cause may be at odds with an earlier stretch. -/
structure Misreading where
  cause : Cause
  span : Span
  earlier : Option Span := none
  deriving Repr, DecidableEq

/-- The stretches that a misreading points to, the first one first. -/
def Misreading.spans (misreading : Misreading) : List Span :=
  misreading.earlier.toList ++ [misreading.span]

/-! ### The underlined text -/

/-- The lines of a pattern. A carriage return before a line feed belongs to the end of the line. -/
def linesOf (text : List Char) : List (List Char) :=
  let pieces := text.splitOn '\n'
  let ended := pieces.dropLast.map fun piece =>
    if piece.getLast? = some '\r' then piece.dropLast else piece
  ended ++ (pieces.getLast?.filter (· != [])).toList

/-- How many lines a pattern has, with the empty one behind a line feed at its end. -/
def lineCount (text : List Char) : Nat :=
  (linesOf text).length + if text.getLast? = some '\n' then 1 else 0

/-- Marks under the stretches of one line, from the number of marks and blanks set so far. -/
def underline (done : Nat) : List Span → List Char
  | [] => []
  | span :: spans =>
    let blanks := span.start.column - 1 - done
    let marks := max 1 (span.stop.column - span.start.column)
    List.replicate blanks ' ' ++ List.replicate marks '^' ++ underline (done + blanks + marks) spans

/-- The number of a line, padded on the left. -/
def lineNumber (width n : Nat) : String :=
  let digits := showNat n
  String.ofList (List.replicate (width - digits.length) ' ') ++ digits

/-- The lines of a pattern, each with marks under the stretches on it. Lines have numbers if there
are several. -/
def underlined (text : List Char) (spans : List Span) : String :=
  let count := lineCount text
  let width := (showNat count).length
  let lead (n : Nat) := if count ≤ 1 then "    " else lineNumber width n ++ ": "
  let line (entry : List Char × Nat) :=
    let marked := spans.filter fun span => span.isOnOneLine && span.start.line == entry.2
    let marks :=
      if marked.isEmpty then ""
      else
        String.ofList (List.replicate (lead entry.2).length ' ' ++ underline 0 marked) ++ "\n"
    lead entry.2 ++ String.ofList entry.1 ++ "\n" ++ marks
  String.join (((linesOf text).zipIdx 1).map line)

/-- Where a stretch of several lines begins and ends. -/
def Span.describe (span : Span) : String :=
  "on line " ++ showNat span.start.line ++ " (column " ++ showNat span.start.column ++
    ") through line " ++ showNat span.stop.line ++ " (column " ++
    showNat (span.stop.column - 1) ++ ")"

/-- The wording of a misreading of a text. -/
def Misreading.message (misreading : Misreading) (text : List Char) : String :=
  let shown := underlined text misreading.spans
  let cause := "error: " ++ misreading.cause.message
  if text.contains '\n' then
    let rule := String.ofList (List.replicate 79 '~') ++ "\n"
    let long := misreading.spans.filter fun span => !span.isOnOneLine
    let described :=
      if long.isEmpty then "" else "\n".intercalate (long.map Span.describe) ++ "\n"
    "regex parse error:\n" ++ rule ++ shown ++ rule ++ described ++ cause
  else "regex parse error:\n" ++ shown ++ cause

end GladeGo.Pattern

namespace GladeGo

/-- Why a pattern cannot be used. -/
inductive PatternFault where
  | unreadable (text : List Char) (misreading : Pattern.Misreading)
  /-- The pattern looks for the edges of words in Unicode. -/
  | wordEdges
  /-- The pattern would take more than `limit` bytes. -/
  | tooLarge (limit : Nat)
  deriving Repr, DecidableEq

/-- The wording of a pattern fault. -/
def PatternFault.message : PatternFault → String
  | .unreadable text misreading => misreading.message text
  | .wordEdges => "error building NFA"
  | .tooLarge limit => "Compiled regex exceeds size limit of " ++ Text.showNat limit ++ " bytes."

end GladeGo
