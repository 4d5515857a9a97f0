/-! # Control sequences of terminals

What a terminal would show of a text: the text without the sequences that steer a terminal, and
without controls other than white space. A sequence begins with ESC. CAN and SUB break it off, and
another ESC begins a new one in its place.

White space in a sequence that carries no string shows, and it interrupts the sequence: what follows
shows too, up to the next control that does not, and there the sequence goes on. A character beyond
ASCII in text that shows ends an interrupted sequence. -/

namespace GladeGo.Text

/-- Where in a sequence a character stands. -/
inductive ControlSequence where
  /-- After ESC. -/
  | escape
  /-- After ESC and some intermediate characters. -/
  | intermediates
  /-- After `ESC [`: parameters, up to a final character. -/
  | parameters
  /-- After `ESC P`, which begins a device control string. -/
  | deviceStart
  /-- In the parameters of a device control string. -/
  | deviceParameters
  /-- After the parameters of a device control string. -/
  | deviceIntermediates
  /-- In a string that goes on to the control ST. -/
  | string
  /-- After `ESC ]`: a string that goes on to a BEL. -/
  | command
  deriving Repr, DecidableEq

/-- Whether a character ends a string. It does if one of its bytes in UTF-8 is the code 9C of the
control ST. -/
def endsControlString (c : Char) : Bool := (String.utf8EncodeChar c).contains 0x9c

/-- The place in a sequence after one more character of it; `none` is text outside of sequences. -/
def ControlSequence.next (sequence : Option ControlSequence) (c : Char) : Option ControlSequence :=
  let n := c.toNat
  if n = 0x1b then some .escape
  else if n = 0x18 ∨ n = 0x1a then none
  else
    match sequence with
    | none => none
    | some .escape =>
      if n < 0x20 ∨ 0x7f ≤ n then some .escape
      else if n < 0x30 then some .intermediates
      else if c = '[' then some .parameters
      else if c = 'P' then some .deviceStart
      else if c = 'X' ∨ c = '^' ∨ c = '_' then some .string
      else if c = ']' then some .command
      else none
    | some .intermediates => if 0x30 ≤ n ∧ n < 0x7f then none else some .intermediates
    | some .parameters => if 0x40 ≤ n ∧ n < 0x7f then none else some .parameters
    | some .deviceStart =>
      if n < 0x20 ∨ 0x7f ≤ n then some .deviceStart
      else if n < 0x30 then some .deviceIntermediates
      else if n < 0x40 then some .deviceParameters
      else some .string
    | some .deviceParameters =>
      if n < 0x20 ∨ 0x7f ≤ n then some .deviceParameters
      else if n < 0x30 then some .deviceIntermediates
      else if n < 0x3c then some .deviceParameters
      else some .string
    | some .deviceIntermediates =>
      if 0x30 ≤ n ∧ n < 0x7f then some .string else some .deviceIntermediates
    | some .string => if endsControlString c then none else some .string
    | some .command => if n = 0x07 then none else some .command

/-- Whether `c` is one of the controls that space a text out: tab, line feed, form feed and carriage
return. -/
def isSpacingControl (c : Char) : Bool := c = '\t' || c = '\n' || c = '\x0c' || c = '\r'

/-- Whether `c` shows in text outside of sequences. -/
def showsInText (c : Char) : Bool :=
  (0x20 ≤ c.toNat && c.toNat != 0x7f) || isSpacingControl c

/-- Whether `c` shows although it stands in a sequence. -/
def ControlSequence.letsShow (sequence : ControlSequence) (c : Char) : Bool :=
  match sequence with
  | .escape => isSpacingControl c
  | .intermediates => isSpacingControl c
  | .parameters => isSpacingControl c
  | _ => false

/-- What has been read of a text: the sequence that it ends in, if any, whether that sequence is
interrupted, and the characters that show, the last one first. -/
structure TerminalText where
  sequence : Option ControlSequence
  interrupted : Bool
  shown : List Char

namespace TerminalText

/-- The empty text. -/
def empty : TerminalText := ⟨none, false, []⟩

/-- Whether `c` shows after a text. -/
def shows (text : TerminalText) (c : Char) : Bool :=
  match text.sequence with
  | none => showsInText c
  | some sequence => if text.interrupted then showsInText c else sequence.letsShow c

/-- The text with one more character. -/
def push (text : TerminalText) (c : Char) : TerminalText :=
  if text.shows c then ⟨if c.toNat < 0x80 then text.sequence else none, true, c :: text.shown⟩
  else ⟨ControlSequence.next text.sequence c, false, text.shown⟩

end TerminalText

/-- What a terminal would show of the text `s`. -/
def withoutControls (s : String) : String :=
  String.ofList (s.toList.foldl TerminalText.push .empty).shown.reverse

end GladeGo.Text
