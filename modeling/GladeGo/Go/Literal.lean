import GladeGo.Text.Blank
import GladeGo.Text.Quoted

/-! # Go literals

Go expressions for the values that a document writes as text. A text that is no value of the kind
asked for is a fault, whose wording leaves it to the caller to say where the text stands. -/

namespace GladeGo.Go

open GladeGo.Text

/-- Why a text is no value of the kind asked for. -/
inductive LiteralFault where
  | notInteger (fault : NumeralFault)
  | notConstant (part : String)
  | sizeNotInteger (fault : NumeralFault)
  | sizeCount (count : Nat)
  | colourForm
  | colourChannel (fault : NumeralFault)
  deriving Repr, DecidableEq

/-- The wording for a text that is no integer. -/
def notIntegerMessage (fault : NumeralFault) : String := "not an integer (" ++ fault.message ++ ")"

/-- The wording of a literal fault. -/
def LiteralFault.message : LiteralFault → String
  | .notInteger fault => notIntegerMessage fault
  | .notConstant part => quoted part ++ " is not a wx constant"
  | .sizeNotInteger fault => "size must be two integers: " ++ notIntegerMessage fault
  | .sizeCount count => "size must have two components, found " ++ showNat count
  | .colourForm => "colour must have the form #rrggbb"
  | .colourChannel fault => "invalid colour channel (" ++ fault.message ++ ")"

/-! ### Strings and truth values -/

/-- Whether a Go string literal writes `c` by its code: the control characters, and the byte order
mark, which Go refuses after the start of a file. -/
def isCoded (c : Char) : Bool :=
  c.toNat ≤ 0x1f || (0x7f ≤ c.toNat && c.toNat ≤ 0x9f) || c.toNat == 0xfeff

/-- How a Go string literal writes one character. -/
def stringChar (c : Char) : List Char :=
  if c = '"' then ['\\', '"']
  else if c = '\\' then ['\\', '\\']
  else if c = '\n' then ['\\', 'n']
  else if c = '\r' then ['\\', 'r']
  else if c = '\t' then ['\\', 't']
  else if isCoded c then '\\' :: 'u' :: paddedDigits 16 4 c.toNat
  else [c]

/-- The characters of the Go string literal for `cs`. -/
def stringChars (cs : List Char) : List Char := '"' :: cs.flatMap stringChar ++ ['"']

/-- The Go string literal for `s`. -/
def string (s : String) : String := String.ofList (stringChars s.toList)

/-- The Go literal for a truth value. -/
def bool (b : Bool) : String := if b then "true" else "false"

/-! ### Integers -/

/-- Reads the integer that `cs` holds between blanks. -/
def readInteger (cs : List Char) : Except NumeralFault Int := readInt (trimChars cs)

/-- The integer that `raw` holds, in canonical form. -/
def integer (raw : String) : Except LiteralFault String :=
  match readInteger raw.toList with
  | .ok i => .ok (showInt i)
  | .error fault => .error (.notInteger fault)

/-- The flag that `raw` holds, negated: whether its integer is zero. -/
def negatedFlag (raw : String) : Except LiteralFault String :=
  match readInteger raw.toList with
  | .ok i => .ok (bool (i == 0))
  | .error fault => .error (.notInteger fault)

/-- The size that `raw` holds, two integers with a comma between them. -/
def size (raw : String) : Except LiteralFault String :=
  match (raw.toList.splitOn ',').mapM readInteger with
  | .error fault => .error (.sizeNotInteger fault)
  | .ok [width, height] => .ok ("wx.NewSize(" ++ showInt width ++ ", " ++ showInt height ++ ")")
  | .ok values => .error (.sizeCount values.length)

/-! ### Constants -/

/-- Whether `c` may stand in the name of a constant after its first character. -/
def isConstantChar (c : Char) : Bool := c.isUpper || c.isDigit || c == '_'

/-- Whether `name` is the name of a constant, without the leading `wx`. -/
def isConstantName (name : List Char) : Bool :=
  match name with
  | [] => false
  | c :: cs => c.isUpper && cs.all isConstantChar

/-- One part of a combination of constants: an integer stands for itself, and `wxNAME` for
`wx.NAME`. -/
def constantPart (part : List Char) : Except LiteralFault (List Char) :=
  match readInt part, part with
  | .ok _, _ => .ok part
  | .error _, 'w' :: 'x' :: name =>
    if isConstantName name then .ok ('w' :: 'x' :: '.' :: name)
    else .error (.notConstant (String.ofList part))
  | .error _, _ => .error (.notConstant (String.ofList part))

/-- The combination of constants that `raw` holds, parts with bars between them. -/
def constant (raw : String) : Except LiteralFault String := do
  let parts ← (raw.toList.splitOn '|').mapM fun part => constantPart (trimChars part)
  .ok (" | ".intercalate (parts.map String.ofList))

/-! ### Colours -/

/-- The value of one channel of a colour, two hexadecimal digits or a plus sign and one. -/
def readChannel (a b : Char) : Except NumeralFault Nat :=
  if a = '+' then readDigits 16 255 .tooLarge 0 [b] else readDigits 16 255 .tooLarge 0 [a, b]

/-- The Go expression for one channel of a colour. -/
def channel (value : Nat) : String := "byte(" ++ showNat value ++ ")"

/-- The colour that `raw` holds, as `#rrggbb` between blanks. -/
def colour (raw : String) : Except LiteralFault String :=
  match trimChars raw.toList with
  | ['#', r₁, r₂, g₁, g₂, b₁, b₂] =>
    if [r₁, r₂, g₁, g₂, b₁, b₂].all fun c => c.toNat < 128 then
      match [(r₁, r₂), (g₁, g₂), (b₁, b₂)].mapM fun (a, b) => readChannel a b with
      | .ok values => .ok ("wx.NewColour(" ++ ", ".intercalate (values.map channel) ++ ")")
      | .error fault => .error (.colourChannel fault)
    else .error .colourForm
  | _ => .error .colourForm

end GladeGo.Go
