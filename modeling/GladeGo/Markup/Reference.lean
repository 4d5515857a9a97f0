import GladeGo.Text.Offset
import GladeGo.Markup.Fault

/-! # Entity and character references

A text or attribute value is decoded from the left. Every `&` begins a reference, which the next `;`
ends; it names one of the five predefined entities or a code point in decimal or hexadecimal. -/

namespace GladeGo.Markup

open GladeGo.Text

/-- The character that a predefined entity stands for. -/
def predefinedEntity (name : List Char) : Option Char :=
  if name = ['l', 't'] then some '<'
  else if name = ['g', 't'] then some '>'
  else if name = ['a', 'm', 'p'] then some '&'
  else if name = ['a', 'p', 'o', 's'] then some '\''
  else if name = ['q', 'u', 'o', 't'] then some '"'
  else none

/-- The greatest number of 32 bits, which is the greatest number that a character reference may
spell. -/
def maxReference : Nat := 4294967295

/-- Reads an unsigned number of the given base. -/
def readCode (base : Nat) (digits : List Char) : Except ReferenceFault Nat :=
  match digits with
  | '+' :: _ => .error .signedNumber
  | '-' :: _ => .error .signedNumber
  | _ => (readNat base maxReference digits).mapError .badNumber

/-- The character with the given code point. -/
def charOfCode (code : Nat) : Except ReferenceFault Char :=
  if code = 0 then .error .zero
  else if h : code.isValidChar then .ok (Char.ofNatAux code h)
  else .error (.notCharacter code)

/-- The character that the number of a character reference stands for: hexadecimal after an `x`,
decimal otherwise. -/
def numberedChar : List Char → Except ReferenceFault Char
  | 'x' :: digits => readCode 16 digits >>= charOfCode
  | digits => readCode 10 digits >>= charOfCode

/-- The character a reference stands for. `name` stands before `after` in `whole`. -/
def referencedChar (whole name after : List Char) : Except ReferenceFault Char :=
  match name with
  | '#' :: number => numberedChar number
  | _ =>
    match predefinedEntity name with
    | some c => .ok c
    | none =>
      let stop := offsetOf whole after
      .error (.unknownEntity (stop - utf8Length name) stop (String.ofList name))

/-- Whether `c` belongs to the name of a reference. -/
def isReferenceChar (c : Char) : Bool := c != '&' && c != ';'

/-- Decodes the suffix `cs` of `whole`. -/
def decodeSuffix (whole cs : List Char) : Except ReferenceFault (List Char) :=
  let plain := cs.takeWhile (· != '&')
  match _hcs : cs.dropWhile (· != '&') with
  | [] => .ok plain
  | opening :: tail =>
    match _htail : tail.dropWhile isReferenceChar with
    | ';' :: rest => do
      let char ← referencedChar whole (tail.takeWhile isReferenceChar) (';' :: rest)
      let chars ← decodeSuffix whole rest
      .ok (plain ++ char :: chars)
    | _ => .error (.unterminated (offsetOf whole (opening :: tail)) (utf8Length whole))
termination_by cs.length
decreasing_by
  have hopening := (List.dropWhile_suffix (· != '&') (l := cs)).length_le
  have hname := (List.dropWhile_suffix isReferenceChar (l := tail)).length_le
  rw [_hcs] at hopening
  rw [_htail] at hname
  simp only [List.length_cons] at hopening hname
  omega

/-- The text that `cs` writes with references. -/
def decode (cs : List Char) : Except ReferenceFault (List Char) := decodeSuffix cs cs

end GladeGo.Markup
