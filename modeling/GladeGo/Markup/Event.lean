import GladeGo.Markup.Construct
import GladeGo.Markup.Tag

/-! # Events

A document read from the left is a sequence of events: texts, CDATA sections, tags, and constructs
that carry no content. `readEvent` takes one event off the source; `nest` keeps the names of the
open elements and refuses a closing tag that closes another element than the innermost one. -/

namespace GladeGo.Markup

/-- One piece of a document, as it is written. -/
inductive Event where
  /-- Text up to the next markup, with its references. -/
  | text (written : List Char)
  | cdata (content : List Char)
  /-- An opening tag; `isEmpty` when it closes its element as well. -/
  | opening (content : List Char) (isEmpty : Bool)
  | closing (name : List Char)
  /-- A comment, processing instruction or DOCTYPE. -/
  | skipped
  deriving Repr, DecidableEq

/-- A fault and the suffix of the source at which it is reported. -/
structure PlacedFault where
  fault : Fault
  suffix : List Char
  deriving Repr, DecidableEq

/-- The name in a closing tag: what follows the slash, without spaces at its end unless there is
nothing else. -/
def closingName (content : List Char) : List Char :=
  let name := content.tail
  if name.all isSpace then name else (name.reverse.dropWhile isSpace).reverse

/-- The event of a genuine construct with the given content. -/
def Construct.event (construct : Construct) (content : List Char) : Except Fault Event :=
  match construct with
  | .cdata => .ok (.cdata ((content.drop 8).take (content.length - 10)))
  | .doctype => if (content.drop 8).all isSpace then .error .namelessDoctype else .ok .skipped
  | .comment => .ok .skipped
  | .instruction => .ok .skipped
  | .closingTag => .ok (.closing (closingName content))
  | .openingTag =>
    if content.getLast? = some '/' then .ok (.opening content.dropLast true)
    else .ok (.opening content false)

/-- The event that `source`, which is not empty, begins with, and what follows it. -/
def readEvent (source : List Char) : Except PlacedFault (Event × List Char) :=
  match source with
  | '<' :: cs =>
    match Construct.startingWith cs with
    | .error fault => .error ⟨fault, source⟩
    | .ok construct =>
      match construct.cut cs with
      | none => .error ⟨construct.unclosed, source⟩
      | some (content, rest) =>
        if construct.isGenuine content then
          match construct.event content with
          | .error fault => .error ⟨fault, '>' :: rest⟩
          | .ok event => .ok (event, rest)
        else .error ⟨construct.unclosed, source⟩
  | _ => .ok (.text (source.takeWhile (· != '<')), source.dropWhile (· != '<'))

theorem readEvent_length {source rest : List Char} {event : Event} (hsource : source ≠ [])
    (h : readEvent source = .ok (event, rest)) : rest.length < source.length := by
  unfold readEvent at h
  split at h
  · split at h
    · cases h
    · split at h
      · cases h
      · rename_i hcut
        have hlt := Construct.cutFrom_length hcut
        split at h
        · split at h
          · cases h
          · cases h
            simp only [List.length_cons]
            omega
        · cases h
  · rename_i hopen
    cases h
    match source with
    | [] => exact absurd rfl hsource
    | c :: cs =>
      have hc : (c != '<') = true := by
        simp only [bne_iff_ne, ne_eq]
        rintro rfl
        exact hopen cs rfl
      have := (List.dropWhile_suffix (· != '<') (l := cs)).length_le
      simp only [List.dropWhile_cons, hc, ite_true, List.length_cons]
      omega

/-- The names of the open elements after an event, innermost first, given those before it. -/
def nest (opened : List (List Char)) : Event → Except Fault (List (List Char))
  | .opening content false => .ok (tagName content :: opened)
  | .closing name =>
    match opened with
    | [] => .error (.strayClosing (String.ofList name))
    | innermost :: opened =>
      if name = innermost then .ok opened
      else .error (.wrongClosing (String.ofList innermost) (String.ofList name))
  | _ => .ok opened

end GladeGo.Markup
