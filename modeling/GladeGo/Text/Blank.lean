/-! # Blank characters

The Unicode property White_Space, and texts with the blanks at both ends taken off. The zero-width
space U+200B and the byte order mark U+FEFF are not blank. -/

namespace GladeGo.Text

/-- Whether `c` has the Unicode property White_Space. -/
def isBlank (c : Char) : Bool :=
  let n := c.toNat
  (0x09 ≤ n && n ≤ 0x0d) || n == 0x20 || n == 0x85 || n == 0xa0 || n == 0x1680 ||
    (0x2000 ≤ n && n ≤ 0x200a) || n == 0x2028 || n == 0x2029 || n == 0x202f || n == 0x205f ||
    n == 0x3000

/-- The characters of `cs` without the blanks at its start and at its end. -/
def trimChars (cs : List Char) : List Char :=
  ((cs.dropWhile isBlank).reverse.dropWhile isBlank).reverse

/-- The text `s` without the blanks at its start and at its end. -/
def trim (s : String) : String := String.ofList (trimChars s.toList)

end GladeGo.Text
