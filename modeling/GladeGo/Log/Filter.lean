import GladeGo.Keyed
import GladeGo.Log
import GladeGo.Pattern.Meaning

/-! # Log filters

A filter selects the records of a log that are shown. Its directives say up to which level the
records of a topic are shown: of the directives that cover a topic, the one with the longest name
decides, and of several the last. The message of a shown record has a part that a pattern describes,
if there is a pattern.

A filter is written as directives with commas between them, and a slash before the pattern. What
cannot be read is left out. -/

namespace GladeGo

open GladeGo.Text (trim)

/-- The levels of the records that are shown of some topics. -/
structure Directive where
  /-- What the names of the topics begin with; `none` if all topics are meant. -/
  topic : Option String
  /-- The level of the least important records that are shown; `none` if none are. -/
  level : Option Level
  deriving Repr, DecidableEq

/-- A selection of the records of a log. -/
structure LogFilter where
  directives : List Directive
  pattern : Option Pattern

/-- Why a part of a written filter cannot be used. -/
inductive FilterFault where
  | tooManySlashes (setting : String)
  | unreadable (directive : String)
  | pattern (fault : PatternFault)
  deriving Repr, DecidableEq

/-- The wording of a filter fault. -/
def FilterFault.message : FilterFault → String
  | .tooManySlashes setting => "invalid logging spec '" ++ setting ++ "' (too many '/'s)"
  | .unreadable directive => "invalid logging spec '" ++ directive ++ "'"
  | .pattern fault => "invalid regex filter - " ++ fault.message

/-- The line that reports a filter fault. -/
def FilterFault.line (fault : FilterFault) : String :=
  "warning: " ++ fault.message ++ ", ignoring it\n"

/-! ### Selecting records -/

/-- Whether a directive is about a topic. -/
def Directive.covers (directive : Directive) (topic : Topic) : Bool :=
  directive.topic.all fun name => name.toList.isPrefixOf topic.name.toList

/-- The length of the name in a directive. -/
def Directive.length (directive : Directive) : Nat := (directive.topic.getD "").length

/-- The directive that decides about a topic. -/
def LogFilter.directiveFor (filter : LogFilter) (topic : Topic) : Option Directive :=
  (filter.directives.filter (·.covers topic)).foldl
    (fun found directive =>
      if found.any fun longer => directive.length < longer.length then found else some directive)
    none

/-- Whether a record is shown. -/
def LogFilter.shows (filter : LogFilter) (record : Record) : Bool :=
  let level := (filter.directiveFor record.topic).bind Directive.level
  level.any (fun level => record.level.rank ≤ level.rank) &&
    filter.pattern.all fun pattern => pattern.isFoundIn record.message

/-! ### Reading filters -/

/-- The filter that shows the records of all topics up to a level. -/
def LogFilter.upTo (level : Level) : LogFilter := ⟨[⟨none, some level⟩], none⟩

/-- The level that a name in upper or lower case stands for; `off` stands for no level. -/
def levelNamed (name : String) : Option (Option Level) :=
  if name.toUpper = "OFF" then some none
  else
    ([Level.error, .warn, .info, .debug, .trace].find? fun level => level.name == name.toUpper).map
      some

/-- The parts of a text between separators. -/
def piecesBetween (separator : Char) (text : String) : List String :=
  (text.toList.splitOn separator).map String.ofList

/-- Reads a directive: the name of a level or of a topic, or both with an equals sign between them.
All records of a topic without a level are shown. -/
def readDirective (text : String) : Except FilterFault Directive :=
  match piecesBetween '=' text with
  | [name] =>
    match levelNamed name with
    | some level => .ok ⟨none, level⟩
    | none => .ok ⟨some name, some .trace⟩
  | [name, level] =>
    let level := trim level
    if level = "" then .ok ⟨some name, some .trace⟩
    else
      match levelNamed level with
      | some level => .ok ⟨some name, level⟩
      | none => .error (.unreadable level)
  | _ => .error (.unreadable text)

/-- Reads directives. A later directive for the same topics takes the place of an earlier one. If
there are none, errors are shown. -/
def readDirectives (text : String) : List Directive × List FilterFault :=
  let read := ((piecesBetween ',' text).map trim).filter (· ≠ "") |>.map readDirective
  let directives := collectBy Directive.topic (read.filterMap Except.toOption)
  let faults := read.filterMap fun
    | .ok _ => none
    | .error fault => some fault
  (if directives.isEmpty then [⟨none, some .error⟩] else directives, faults)

/-- Reads a filter. -/
def LogFilter.read (setting : String) : LogFilter × List FilterFault :=
  match piecesBetween '/' setting with
  | [text] =>
    let (directives, faults) := readDirectives text
    (⟨directives, none⟩, faults)
  | [text, patternText] =>
    let (directives, faults) := readDirectives text
    match Pattern.ofText patternText with
    | .ok pattern => (⟨directives, some pattern⟩, faults)
    | .error fault => (⟨directives, none⟩, faults ++ [.pattern fault])
  | _ => (.upTo .error, [.tooManySlashes setting])

end GladeGo
