/-! # Byte offsets

Diagnostics count positions in UTF-8 bytes. A position in a text is named by the suffix that begins
there. -/

namespace GladeGo.Text

/-- The number of bytes of `cs` in UTF-8. -/
def utf8Length (cs : List Char) : Nat := cs.foldr (fun c n => c.utf8Size + n) 0

@[simp] theorem utf8Length_nil : utf8Length [] = 0 := rfl

@[simp] theorem utf8Length_cons (c : Char) (cs : List Char) :
    utf8Length (c :: cs) = c.utf8Size + utf8Length cs := rfl

@[simp] theorem utf8Length_append (as bs : List Char) :
    utf8Length (as ++ bs) = utf8Length as + utf8Length bs := by
  induction as with
  | nil => simp
  | cons c as ih => simp [ih, Nat.add_assoc]

/-- The offset at which `suffix` begins in `whole`. -/
def offsetOf (whole suffix : List Char) : Nat := utf8Length whole - utf8Length suffix

@[simp] theorem offsetOf_append (as bs : List Char) : offsetOf (as ++ bs) bs = utf8Length as := by
  simp [offsetOf]

end GladeGo.Text
