/-! # Lists with keys

Lists whose members carry keys, no two the same, in the order in which the keys were first put in.
-/

namespace GladeGo

variable {α κ : Type} [BEq κ]

/-- Puts `a` into `as`: in the place of the member that has its key, or at the end. -/
def putBy (key : α → κ) (a : α) (as : List α) : List α :=
  if as.any fun b => key b == key a then as.map fun b => if key b == key a then a else b
  else as ++ [a]

/-- The list that arises when the members of `as` are put in one after the other. -/
def collectBy (key : α → κ) (as : List α) : List α := as.foldl (fun put a => putBy key a put) []

end GladeGo
