import GladeGo.Text.Numeral

/-! # JSON

JSON values without numbers, and their written form: each entry on a line of its own, two blanks
deeper than what it stands in. -/

namespace GladeGo

/-- A JSON value. The members of an object are in order. -/
inductive Json where
  | null
  | bool (value : Bool)
  | string (value : String)
  | array (items : List Json)
  | object (members : List (String × Json))
  deriving Repr

namespace Json

open GladeGo.Text

/-- How one character of a string is written: a quote, a backslash and the controls below U+0020 are
escaped. -/
def stringChar (c : Char) : List Char :=
  if c = '"' then ['\\', '"']
  else if c = '\\' then ['\\', '\\']
  else if c = '\x08' then ['\\', 'b']
  else if c = '\x0c' then ['\\', 'f']
  else if c = '\n' then ['\\', 'n']
  else if c = '\r' then ['\\', 'r']
  else if c = '\t' then ['\\', 't']
  else if c.toNat < 0x20 then '\\' :: 'u' :: paddedDigits 16 4 c.toNat
  else [c]

/-- A string as it is written. -/
def stringChars (s : String) : List Char := '"' :: s.toList.flatMap stringChar ++ ['"']

/-- A line break, and the blanks in front of a line at the given depth. -/
def newLine (depth : Nat) : List Char := '\n' :: List.replicate (2 * depth) ' '

/-- Written items between brackets, each on a line of its own; without items just the brackets. -/
def bracketed (depth : Nat) (opening closing : Char) (items : List (List Char)) : List Char :=
  if items.isEmpty then [opening, closing]
  else
    let lines := items.map fun item => newLine (depth + 1) ++ item
    opening :: [','].intercalate lines ++ newLine depth ++ [closing]

mutual

/-- A value as it is written at the given depth. -/
def chars (depth : Nat) : Json → List Char
  | null => "null".toList
  | bool value => if value then "true".toList else "false".toList
  | string value => stringChars value
  | array items => bracketed depth '[' ']' (itemChars (depth + 1) items)
  | object members => bracketed depth '\x7b' '\x7d' (memberChars (depth + 1) members)

/-- The items of an array as they are written. -/
def itemChars (depth : Nat) : List Json → List (List Char)
  | [] => []
  | item :: items => item.chars depth :: itemChars depth items

/-- The members of an object as they are written. -/
def memberChars (depth : Nat) : List (String × Json) → List (List Char)
  | [] => []
  | (key, value) :: members =>
    (stringChars key ++ [':', ' '] ++ value.chars depth) :: memberChars depth members

end

/-- The written form of a value. -/
def text (value : Json) : String := String.ofList (value.chars 0)

/-- A string that may be absent. -/
def optionalString : Option String → Json
  | none => .null
  | some s => .string s

end Json

end GladeGo
