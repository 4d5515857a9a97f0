import GladeGo.Document.Build
import GladeGo.Markup.Event

/-! # Reading documents

Reads a document from its text, event by event; the first fault ends the reading. A leading byte
order mark is no part of the text. -/

namespace GladeGo

open GladeGo.Markup GladeGo.Text

/-- How far the reading of a document has come. -/
structure Reading where
  builder : Builder
  /-- The names of the tags that the markup has left open, innermost first. -/
  nesting : List (List Char)
  /-- What is still to be read. -/
  rest : List Char
  deriving Repr

namespace Reading

/-- The reading of a document at its start. -/
def start (source : List Char) : Reading := ⟨.start, [], source⟩

/-- The document fault that a fault of the markup makes in `source`. -/
def placed (source : List Char) (fault : Fault) (suffix : List Char) : DocumentFault :=
  .markup (offsetOf source suffix) fault

/-- Hands one event to the builder. Texts are decoded only inside elements. A fault in a text or a
tag is reported where it ends, that is, at `rest`. -/
def build (source : List Char) (builder : Builder) (event : Event) (rest : List Char) :
    Except DocumentFault Builder :=
  match event with
  | .text written =>
    if builder.opened.isEmpty then .ok builder
    else
      match decode written with
      | .error fault => .error (placed source (.reference fault) rest)
      | .ok content => .ok (builder.addText (String.ofList content))
  | .cdata content => .ok (builder.addText (String.ofList content))
  | .opening content isEmpty =>
    match Tag.read content with
    | .error fault => .error (placed source fault rest)
    | .ok tag =>
      if isEmpty then builder.addElement tag.name tag.attributes
      else builder.openElement tag.name tag.attributes
  | .closing name => builder.closeElement (String.ofList name)
  | .skipped => .ok builder

/-- Reads one event of what is left, which is not empty. -/
def next (source : List Char) (reading : Reading) : Except DocumentFault Reading :=
  match readEvent reading.rest with
  | .error ⟨fault, suffix⟩ => .error (placed source fault suffix)
  | .ok (event, rest) =>
    match nest reading.nesting event with
    | .error fault => .error (placed source fault reading.rest)
    | .ok nesting =>
      match build source reading.builder event rest with
      | .error fault => .error fault
      | .ok builder => .ok ⟨builder, nesting, rest⟩

theorem next_length {source : List Char} {reading later : Reading} (hrest : reading.rest ≠ [])
    (h : reading.next source = .ok later) : later.rest.length < reading.rest.length := by
  unfold next at h
  split at h
  · cases h
  · rename_i event rest hread
    have hlt := readEvent_length hrest hread
    split at h
    · cases h
    · split at h
      · cases h
      · cases h
        exact hlt

/-- Reads all that is left. -/
def run (source : List Char) (reading : Reading) : Except DocumentFault Document :=
  if _hrest : reading.rest = [] then reading.builder.finish
  else
    match _hnext : reading.next source with
    | .error fault => .error fault
    | .ok later => later.run source
termination_by reading.rest.length
decreasing_by exact next_length _hrest _hnext

end Reading

/-- The text without a leading byte order mark. -/
def dropByteOrderMark (cs : List Char) : List Char :=
  match cs with
  | '\ufeff' :: cs => cs
  | cs => cs

/-- Reads a document from its text. -/
def Document.parse (text : String) : Except DocumentFault Document :=
  let source := dropByteOrderMark text.toList
  (Reading.start source).run source

end GladeGo
