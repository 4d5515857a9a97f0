import GladeGo.Markup.Reference

/-! # Tags

The content of an opening tag is a name, up to the first space, and then attributes. Keys are
distinct and values stand in quotes and are decoded. Names are not checked otherwise. -/

namespace GladeGo.Markup

open GladeGo.Text

/-- Whether `c` separates the parts of a tag. -/
def isSpace (c : Char) : Bool := c == ' ' || c == '\t' || c == '\r' || c == '\n'

/-- The name and the attributes of an opening tag. -/
structure Tag where
  name : String
  attributes : List (String × String)
  deriving Repr, DecidableEq

/-- The name that a tag's content begins with. -/
def tagName (content : List Char) : List Char := content.takeWhile fun c => !isSpace c

/-- Whether `c` belongs to the key of an attribute, after the key's first character. -/
def isKeyChar (c : Char) : Bool := c != '=' && !isSpace c

/-- Reads the quoted value with which `cs` begins after spaces: the value as written, and what
follows its closing quote. -/
def readValue (content cs : List Char) : Except AttributeFault (List Char × List Char) :=
  match cs.dropWhile isSpace with
  | [] => .error (.noValue (utf8Length content))
  | quote :: rest =>
    if quote = '"' || quote = '\'' then
      match rest.dropWhile (· != quote) with
      | [] => .error (.unclosedQuote (utf8Length content) quote)
      | _ :: after => .ok (rest.takeWhile (· != quote), after)
    else .error (.unquoted (offsetOf content (quote :: rest)))

/-- Reads the attribute that `cs`, which begins with no space, begins with: its key, its value as
written, and what follows. `seen` holds the earlier keys with their positions. -/
def readAttribute (content : List Char) (seen : List (List Char × Nat)) (cs : List Char) :
    Except AttributeFault (List Char × List Char × List Char) :=
  let key := cs.take 1 ++ cs.tail.takeWhile isKeyChar
  match (cs.tail.dropWhile isKeyChar).dropWhile isSpace with
  | '=' :: rest =>
    match seen.lookup key with
    | some previous => .error (.repeated (offsetOf content cs) previous)
    | none => do
      let (value, after) ← readValue content rest
      .ok (key, value, after)
  | rest => .error (.noEquals (offsetOf content rest))

theorem readValue_length {content cs value after : List Char}
    (h : readValue content cs = .ok (value, after)) : after.length ≤ cs.length := by
  unfold readValue at h
  have hspace := (List.dropWhile_suffix isSpace (l := cs)).length_le
  split at h
  · cases h
  · rename_i quote rest hcs
    rw [hcs] at hspace
    split at h
    · have hquote := (List.dropWhile_suffix (· != quote) (l := rest)).length_le
      split at h
      · cases h
      · rename_i hrest
        rw [hrest] at hquote
        cases h
        simp only [List.length_cons] at hspace hquote
        omega
    · cases h

theorem readAttribute_length {content : List Char} {seen : List (List Char × Nat)}
    {cs key value after : List Char} (h : readAttribute content seen cs = .ok (key, value, after)) :
    after.length < cs.length := by
  unfold readAttribute at h
  dsimp only at h
  split at h
  · rename_i rest hrest
    have hspace := (List.dropWhile_suffix isSpace (l := cs.tail.dropWhile isKeyChar)).length_le
    have hkey := (List.dropWhile_suffix isKeyChar (l := cs.tail)).length_le
    rw [hrest] at hspace
    simp only [List.length_cons, List.length_tail] at hspace hkey
    split at h
    · cases h
    · cases hvalue : readValue content rest with
      | error fault => rw [hvalue] at h; cases h
      | ok read =>
        rw [hvalue] at h
        cases h
        have := readValue_length hvalue
        omega
  · cases h

/-- Reads the attributes in the suffix `cs` of a tag's content. -/
def readAttributes (content : List Char) (seen : List (List Char × Nat)) (cs : List Char) :
    Except Fault (List (String × String)) :=
  match _hstart : cs.dropWhile isSpace with
  | [] => .ok []
  | c :: rest =>
    match _hread : readAttribute content seen (c :: rest) with
    | .error fault => .error (.attribute fault)
    | .ok (key, value, after) =>
      match decode value with
      | .error fault => .error (.reference fault)
      | .ok value => do
        let seen := (key, offsetOf content (c :: rest)) :: seen
        let attributes ← readAttributes content seen after
        .ok ((String.ofList key, String.ofList value) :: attributes)
termination_by cs.length
decreasing_by
  have hspace := (List.dropWhile_suffix isSpace (l := cs)).length_le
  rw [_hstart] at hspace
  have := readAttribute_length _hread
  omega

/-- Reads the content of an opening tag. -/
def Tag.read (content : List Char) : Except Fault Tag := do
  let attributes ← readAttributes content [] (content.dropWhile fun c => !isSpace c)
  .ok ⟨String.ofList (tagName content), attributes⟩

end GladeGo.Markup
