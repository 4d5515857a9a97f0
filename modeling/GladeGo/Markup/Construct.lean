import GladeGo.Markup.Fault

/-! # Constructs

Everything that begins with `<`: comments, CDATA sections, DOCTYPE declarations, processing
instructions and tags. The character after the `<` tells which one it is; it ends at the first `>`
before which it is complete. -/

namespace GladeGo.Markup

/-- The kinds of markup. -/
inductive Construct where
  | cdata
  | comment
  | doctype
  | instruction
  | closingTag
  | openingTag
  deriving Repr, DecidableEq

/-- The construct whose `<` stands before `cs`. -/
def Construct.startingWith : List Char → Except Fault Construct
  | [] => .error .unclosedTag
  | '!' :: '[' :: _ => .ok .cdata
  | '!' :: '-' :: _ => .ok .comment
  | '!' :: 'D' :: _ => .ok .doctype
  | '!' :: 'd' :: _ => .ok .doctype
  | '!' :: _ => .error .unknownMarkup
  | '?' :: _ => .ok .instruction
  | '/' :: _ => .ok .closingTag
  | _ => .ok .openingTag

/-- The quote that is open after `cs`, where `quote` was open before. -/
def openQuote (quote : Option Char) : List Char → Option Char
  | [] => quote
  | c :: cs =>
    match quote with
    | none => openQuote (if c = '"' || c = '\'' then some c else none) cs
    | some q => openQuote (if c = q then none else some q) cs

/-- Whether a `>` ends the construct after the content `seen`, which is given from its last
character to its first: comments end after `--`, CDATA sections after `]]` and instructions after
`?`; a DOCTYPE may hold nested angle brackets, and a tag quotes. -/
def Construct.isComplete (construct : Construct) (seen : List Char) : Bool :=
  match construct with
  | .cdata => seen.take 2 == [']', ']']
  | .comment => seen.take 2 == ['-', '-'] && 5 ≤ seen.length
  | .doctype => seen.count '<' == seen.count '>'
  | .instruction => seen.take 1 == ['?']
  | .closingTag => (openQuote none seen.reverse).isNone
  | .openingTag => (openQuote none seen.reverse).isNone

/-- Cuts `cs` at the first `>` that ends the construct. `seen` stands before `cs`, last character
first. -/
def Construct.cutFrom (construct : Construct) (seen : List Char) :
    List Char → Option (List Char × List Char)
  | [] => none
  | c :: cs =>
    if c == '>' && construct.isComplete seen then some (seen.reverse, cs)
    else construct.cutFrom (c :: seen) cs

/-- The content of the construct whose `<` stands before `cs`, and what follows its `>`. -/
def Construct.cut (construct : Construct) (cs : List Char) : Option (List Char × List Char) :=
  construct.cutFrom [] cs

theorem Construct.cutFrom_length {construct : Construct} {cs seen content rest : List Char}
    (h : construct.cutFrom seen cs = some (content, rest)) : rest.length < cs.length := by
  induction cs generalizing seen with
  | nil => cases h
  | cons c cs ih =>
    unfold Construct.cutFrom at h
    split at h
    · cases h; simp
    · have := ih h
      simp only [List.length_cons]
      omega

/-- The fault of a construct that does not end. -/
def Construct.unclosed : Construct → Fault
  | .cdata => .unclosedCdata
  | .comment => .unclosedComment
  | .doctype => .unclosedDoctype
  | .instruction => .unclosedInstruction
  | .closingTag => .unclosedTag
  | .openingTag => .unclosedTag

/-- Whether the content of a construct that ended begins as one of its kind must. -/
def Construct.isGenuine (construct : Construct) (content : List Char) : Bool :=
  match construct with
  | .cdata => "![CDATA[".toList.isPrefixOf content
  | .comment => "!--".toList.isPrefixOf content
  | .doctype => "!DOCTYPE".toList.isPrefixOf (content.map Char.toUpper)
  | .instruction => 2 ≤ content.length
  | .closingTag => true
  | .openingTag => true

end GladeGo.Markup
