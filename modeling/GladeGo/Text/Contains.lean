/-! # Texts within texts -/

namespace GladeGo.Text

/-- Whether `part` stands somewhere in a list. -/
def containsChars (part : List Char) : List Char → Bool
  | [] => part.isEmpty
  | c :: cs => part.isPrefixOf (c :: cs) || containsChars part cs

/-- Whether the text `part` stands somewhere in `s`. -/
def contains (s part : String) : Bool := containsChars part.toList s.toList

end GladeGo.Text
