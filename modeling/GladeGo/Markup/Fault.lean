import GladeGo.Text.Numeral

/-! # Faults in markup

What can be wrong with the markup of a document, and the wording of each fault. -/

namespace GladeGo.Markup

open GladeGo.Text (NumeralFault showNat)

/-- What is wrong with an entity or character reference. -/
inductive ReferenceFault where
  /-- No semicolon ends the reference that begins at byte `start` of a text of `size` bytes. -/
  | unterminated (start size : Nat)
  /-- No entity has the name that stands at bytes `start` to `stop`. -/
  | unknownEntity (start stop : Nat) (name : String)
  | signedNumber
  | badNumber (fault : NumeralFault)
  | zero
  | notCharacter (code : Nat)
  deriving Repr, DecidableEq

/-- The wording of a reference fault. -/
def ReferenceFault.message : ReferenceFault → String
  | .unterminated start size =>
    "Error while escaping character at range " ++ showNat start ++ ".." ++ showNat size ++
      ": Cannot find ';' after '&'"
  | .unknownEntity start stop name =>
    "at " ++ showNat start ++ ".." ++ showNat stop ++ ": unrecognized entity `" ++ name ++ "`"
  | .signedNumber => "invalid character reference: unexpected number sign"
  | .badNumber fault => "invalid character reference: " ++ fault.message
  | .zero => "invalid character reference: 0x0 character is not permitted in XML"
  | .notCharacter code =>
    "invalid character reference: `" ++ showNat code ++ "` is not a valid codepoint"

/-- What is wrong with the attributes of a tag. Positions are byte offsets in the tag. -/
inductive AttributeFault where
  | noEquals (position : Nat)
  | repeated (position previous : Nat)
  | noValue (position : Nat)
  | unquoted (position : Nat)
  | unclosedQuote (position : Nat) (quote : Char)
  deriving Repr, DecidableEq

/-- The wording of an attribute fault. -/
def AttributeFault.message : AttributeFault → String
  | .noEquals n =>
    "error while parsing attribute: position " ++ showNat n ++
      ": attribute key must be directly followed by `=` or space"
  | .repeated n m =>
    "error while parsing attribute: position " ++ showNat n ++
      ": duplicated attribute, previous declaration at position " ++ showNat m
  | .noValue n =>
    "error while parsing attribute: position " ++ showNat n ++
      ": `=` must be followed by an attribute value"
  | .unquoted n =>
    "error while parsing attribute: position " ++ showNat n ++
      ": attribute value must be enclosed in `\"` or `'`"
  | .unclosedQuote n quote =>
    "error while parsing attribute: position " ++ showNat n ++ ": missing closing quote `" ++
      String.singleton quote ++ "` in attribute value"

/-- What is wrong with a piece of markup. -/
inductive Fault where
  | unclosedTag
  | unknownMarkup
  | unclosedCdata
  | unclosedComment
  | unclosedDoctype
  | unclosedInstruction
  | namelessDoctype
  /-- A closing tag where no element is open. -/
  | strayClosing (name : String)
  /-- A closing tag of another name than the innermost open element. -/
  | wrongClosing (expected found : String)
  | attribute (fault : AttributeFault)
  | reference (fault : ReferenceFault)
  deriving Repr, DecidableEq

/-- The wording of a fault. -/
def Fault.message : Fault → String
  | .unclosedTag => "syntax error: tag not closed: `>` not found before end of input"
  | .unknownMarkup => "syntax error: unknown or missed symbol in markup"
  | .unclosedCdata => "syntax error: CDATA not closed: `]]>` not found before end of input"
  | .unclosedComment => "syntax error: comment not closed: `-->` not found before end of input"
  | .unclosedDoctype => "syntax error: DOCTYPE not closed: `>` not found before end of input"
  | .unclosedInstruction =>
    "syntax error: processing instruction or xml declaration not closed: `?>` not found before end of input"
  | .namelessDoctype =>
    "ill-formed document: `<!DOCTYPE>` declaration does not contain a name of a document type"
  | .strayClosing name =>
    "ill-formed document: close tag `</" ++ name ++ ">` does not match any open tag"
  | .wrongClosing expected found =>
    "ill-formed document: expected `</" ++ expected ++ ">`, but `</" ++ found ++ ">` was found"
  | .attribute fault => fault.message
  | .reference fault => fault.message

end GladeGo.Markup
