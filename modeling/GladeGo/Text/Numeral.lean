/-! # Numerals

Whole numbers written in digits, read from the left: the first character that is no digit, or the
first digit that takes the number out of range, is what goes wrong. Integers have 64 bits and may
carry one sign; leading zeros are allowed. -/

namespace GladeGo.Text

/-- Why a text is not a numeral. -/
inductive NumeralFault where
  | empty
  | invalidDigit
  | tooLarge
  | tooSmall
  deriving Repr, DecidableEq

/-- The wording of a numeral fault. -/
def NumeralFault.message : NumeralFault → String
  | .empty => "cannot parse integer from empty string"
  | .invalidDigit => "invalid digit found in string"
  | .tooLarge => "number too large to fit in target type"
  | .tooSmall => "number too small to fit in target type"

/-- The value of `c` as a digit, in any base up to sixteen. -/
def digitValue (c : Char) : Option Nat :=
  if '0' ≤ c ∧ c ≤ '9' then some (c.toNat - '0'.toNat)
  else if 'a' ≤ c ∧ c ≤ 'f' then some (c.toNat - 'a'.toNat + 10)
  else if 'A' ≤ c ∧ c ≤ 'F' then some (c.toNat - 'A'.toNat + 10)
  else none

/-- Reads digits of the given base after a number `n` read so far. A number above `limit` is the
fault `excess`. -/
def readDigits (base limit : Nat) (excess : NumeralFault) (n : Nat) :
    List Char → Except NumeralFault Nat
  | [] => .ok n
  | c :: cs =>
    match digitValue c with
    | none => .error .invalidDigit
    | some d =>
      if base ≤ d then .error .invalidDigit
      else if limit < n * base + d then .error excess
      else readDigits base limit excess (n * base + d) cs

/-- Reads a number of the given base that carries no sign and is at most `limit`. -/
def readNat (base limit : Nat) : List Char → Except NumeralFault Nat
  | [] => .error .empty
  | cs => readDigits base limit .tooLarge 0 cs

/-- The greatest integer of 64 bits. -/
def maxInt64 : Nat := 9223372036854775807

/-- Reads a decimal integer of 64 bits, with or without a sign. -/
def readInt : List Char → Except NumeralFault Int
  | [] => .error .empty
  | ['+'] => .error .invalidDigit
  | ['-'] => .error .invalidDigit
  | '+' :: cs => (readDigits 10 maxInt64 .tooLarge 0 cs).map fun n => (n : Int)
  | '-' :: cs => (readDigits 10 (maxInt64 + 1) .tooSmall 0 cs).map fun n => -(n : Int)
  | cs => (readDigits 10 maxInt64 .tooLarge 0 cs).map fun n => (n : Int)

/-- The decimal digits of `n`, without leading zeros. -/
def natDigits (n : Nat) : List Char := Nat.toDigits 10 n

/-- The decimal numeral of `i`: its digits, after a minus sign if it is negative. -/
def intNumeral : Int → List Char
  | .ofNat n => natDigits n
  | .negSucc n => '-' :: natDigits (n + 1)

/-- The decimal numeral of a natural number. -/
def showNat (n : Nat) : String := String.ofList (natDigits n)

/-- The decimal numeral of an integer. -/
def showInt (i : Int) : String := String.ofList (intNumeral i)

/-- The digits of `n` in the given base, with zeros in front to reach `width` characters. -/
def paddedDigits (base width n : Nat) : List Char :=
  let digits := Nat.toDigits base n
  List.replicate (width - digits.length) '0' ++ digits

end GladeGo.Text
