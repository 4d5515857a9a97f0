import GladeGo.Document.Basic
import GladeGo.Markup.Fault

/-! # Building documents

A document grows in document order, by texts and by tags that open and close elements. The builder
keeps the open elements, innermost first. -/

namespace GladeGo

/-- Why a text is not a document. -/
inductive DocumentFault where
  /-- A fault in the markup, at a byte offset. -/
  | markup (position : Nat) (fault : Markup.Fault)
  /-- The outermost open element is not closed at the end. -/
  | unclosed (tag : String)
  /-- An element follows the root element. -/
  | secondRoot (tag : String)
  | noRoot
  /-- A closing tag where no element is open. -/
  | strayClosing (tag : String)
  /-- A closing tag of another name than the innermost open element. -/
  | wrongClosing (expected found : String)
  deriving Repr, DecidableEq

/-- The wording of a document fault. -/
def DocumentFault.message : DocumentFault → String
  | .markup position fault =>
    "XML syntax error at byte " ++ Text.showNat position ++ ": " ++ fault.message
  | .unclosed tag => "Element <" ++ tag ++ "> is never closed"
  | .secondRoot tag => "Element <" ++ tag ++ "> follows the root element"
  | .noRoot => "Document has no root element"
  | .strayClosing tag => "Closing tag </" ++ tag ++ "> without a matching open element"
  | .wrongClosing expected found =>
    "Closing tag </" ++ found ++ "> does not match open element <" ++ expected ++ ">"

/-- A document under construction. -/
structure Builder where
  document : Document
  /-- The numbers and tags of the open elements, innermost first. -/
  opened : List (Nat × String)
  deriving Repr

namespace Builder

/-- Nothing built yet. -/
def start : Builder := ⟨.empty, []⟩

/-- The number of the node that receives what comes next. -/
def current (builder : Builder) : Nat :=
  match builder.opened with
  | [] => 0
  | (number, _) :: _ => number

/-- Adds a text to the open element. Between documents and their root element there is no text. -/
def addText (builder : Builder) (content : String) : Builder :=
  match builder.opened with
  | [] => builder
  | (number, _) :: _ => { builder with document := builder.document.append number (.text content) }

/-- Adds an element without leaving it open. A document has one root element. -/
def addElement (builder : Builder) (tag : String) (attributes : List (String × String)) :
    Except DocumentFault Builder :=
  if builder.opened.isEmpty && builder.document.rootElement?.isSome then .error (.secondRoot tag)
  else .ok { builder with
    document := builder.document.append builder.current (.element tag attributes) }

/-- Adds an element and leaves it open. Its number is the last one of the grown document. -/
def openElement (builder : Builder) (tag : String) (attributes : List (String × String)) :
    Except DocumentFault Builder := do
  let grown ← builder.addElement tag attributes
  .ok { grown with opened := (grown.document.size - 1, tag) :: grown.opened }

/-- Closes the innermost open element, which must have the given tag. -/
def closeElement (builder : Builder) (tag : String) : Except DocumentFault Builder :=
  match builder.opened with
  | [] => .error (.strayClosing tag)
  | (_, expected) :: opened =>
    if tag = expected then .ok { builder with opened := opened }
    else .error (.wrongClosing expected tag)

/-- The finished document: every element is closed and there is a root element. -/
def finish (builder : Builder) : Except DocumentFault Document :=
  match builder.opened.getLast? with
  | some (_, tag) => .error (.unclosed tag)
  | none =>
    if builder.document.rootElement?.isSome then .ok builder.document else .error .noRoot

end Builder

end GladeGo
