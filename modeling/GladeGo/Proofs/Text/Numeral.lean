import GladeGo.Text.Numeral
import Mathlib.Algebra.Ring.Int.Defs

/-! # Decimal integers

Which texts are read as integers, and as which: those that are digits, with one sign before them or
none, if the integer has 64 bits (`readInt_eq_ok_iff`). Digits are read one after the other, and a
number only grows by it, so that it stays below a limit until the end if it does at the end
(`readDigits_eq_ok_iff`). -/

namespace GladeGo.Text

/-! ### Digits -/

theorem digitValue_of_isDigit {c : Char} (h : c.isDigit = true) :
    digitValue c = some (c.toNat - '0'.toNat) ∧ c.toNat - '0'.toNat < 10 := by
  have hrange : '0' ≤ c ∧ c ≤ '9' := by simpa [Char.isDigit, Char.le_def] using h
  rw [digitValue, if_pos hrange]
  have hnine : c.toNat ≤ '9'.toNat := hrange.2
  have hzero : '0'.toNat = 48 := rfl
  have : '9'.toNat = 57 := rfl
  exact ⟨rfl, by omega⟩

theorem isDigit_of_digitValue {c : Char} {d : Nat} (h : digitValue c = some d) (hd : d < 10) :
    c.isDigit = true := by
  unfold digitValue at h
  split at h
  · rename_i hrange
    simpa [Char.isDigit, Char.le_def] using hrange
  · split at h
    · have := Option.some.inj h
      omega
    · split at h
      · have := Option.some.inj h
        omega
      · cases h

/-- More digits do not make a number smaller. -/
theorem le_ofDigitChars (cs : List Char) (n : Nat) : n ≤ Nat.ofDigitChars 10 cs n := by
  induction cs generalizing n with
  | nil => exact Nat.le_of_eq Nat.ofDigitChars_nil.symm
  | cons c cs ih =>
    rw [Nat.ofDigitChars_cons]
    have := ih (10 * n + (c.toNat - '0'.toNat))
    omega

/-- **Digits are read as the number that they write**, if it is within the limit. -/
theorem readDigits_eq_ok_iff {limit n m : Nat} {excess : NumeralFault} {cs : List Char}
    (hn : n ≤ limit) : readDigits 10 limit excess n cs = .ok m ↔
      (∀ c ∈ cs, c.isDigit = true) ∧ Nat.ofDigitChars 10 cs n = m ∧ m ≤ limit := by
  induction cs generalizing n with
  | nil =>
    rw [readDigits, Nat.ofDigitChars_nil]
    constructor
    · intro h
      obtain rfl := Except.ok.inj h
      exact ⟨fun c hc => absurd hc List.not_mem_nil, rfl, hn⟩
    · rintro ⟨-, rfl, -⟩
      rfl
  | cons c cs ih =>
    rw [List.forall_mem_cons, Nat.ofDigitChars_cons]
    by_cases hdigit : c.isDigit = true
    · obtain ⟨hvalue, hlt⟩ := digitValue_of_isDigit hdigit
      rw [readDigits, hvalue]
      simp only [if_neg (Nat.not_le_of_lt hlt), Nat.mul_comm n 10, hdigit, true_and]
      split
      · rename_i hlimit
        -- What exceeds the limit now exceeds it in the end.
        have hle := le_ofDigitChars cs (10 * n + (c.toNat - '0'.toNat))
        constructor
        · intro h; cases h
        · rintro ⟨-, rfl, hm⟩
          omega
      · rename_i hlimit
        exact ih (Nat.le_of_not_lt hlimit)
    · refine ⟨fun h => ?_, fun h => absurd h.1.1 hdigit⟩
      rw [readDigits] at h
      split at h
      · cases h
      · rename_i d hd
        split at h
        · cases h
        · rename_i hlt
          exact absurd (isDigit_of_digitValue hd (by omega)) hdigit

/-! ### Natural numbers -/

theorem natDigits_inj {m n : Nat} (h : natDigits m = natDigits n) : m = n := by
  have hvalue := congrArg (Nat.ofDigitChars 10 · 0) h
  simpa [natDigits] using hvalue

theorem showNat_inj {m n : Nat} (h : showNat m = showNat n) : m = n :=
  natDigits_inj (String.ofList_injective h)

/-! ### Integers -/

/-- One or more decimal digits. -/
def IsDigits (cs : List Char) : Prop := cs ≠ [] ∧ ∀ c ∈ cs, c.isDigit = true

/-- A text writes an integer in decimal digits, any number of leading zeros included, with one sign
before them or none. -/
inductive IsDecimal : List Char → Int → Prop
  | unsigned {digits : List Char} (h : IsDigits digits) :
    IsDecimal digits (Nat.ofDigitChars 10 digits 0)
  | plus {digits : List Char} (h : IsDigits digits) :
    IsDecimal ('+' :: digits) (Nat.ofDigitChars 10 digits 0)
  | minus {digits : List Char} (h : IsDigits digits) :
    IsDecimal ('-' :: digits) (-(Nat.ofDigitChars 10 digits 0 : Nat))

/-- A text writes an integer of 64 bits. -/
def IsInt64 (cs : List Char) (i : Int) : Prop := IsDecimal cs i ∧ -2 ^ 63 ≤ i ∧ i < 2 ^ 63

theorem isDecimal_plus_iff {cs : List Char} {i : Int} :
    IsDecimal ('+' :: cs) i ↔ IsDigits cs ∧ (Nat.ofDigitChars 10 cs 0 : Nat) = i := by
  constructor
  · intro h
    cases h with
    | unsigned h => exact absurd (h.2 '+' List.mem_cons_self) (by decide)
    | plus h => exact ⟨h, rfl⟩
  · rintro ⟨h, rfl⟩
    exact .plus h

theorem isDecimal_minus_iff {cs : List Char} {i : Int} :
    IsDecimal ('-' :: cs) i ↔ IsDigits cs ∧ -(Nat.ofDigitChars 10 cs 0 : Nat) = i := by
  constructor
  · intro h
    cases h with
    | unsigned h => exact absurd (h.2 '-' List.mem_cons_self) (by decide)
    | minus h => exact ⟨h, rfl⟩
  · rintro ⟨h, rfl⟩
    exact .minus h

theorem isDecimal_unsigned_iff {cs : List Char} {i : Int} (hplus : ∀ ds, cs ≠ '+' :: ds)
    (hminus : ∀ ds, cs ≠ '-' :: ds) :
    IsDecimal cs i ↔ IsDigits cs ∧ (Nat.ofDigitChars 10 cs 0 : Nat) = i := by
  constructor
  · intro h
    cases h with
    | unsigned h => exact ⟨h, rfl⟩
    | plus h => exact absurd rfl (hplus _)
    | minus h => exact absurd rfl (hminus _)
  · rintro ⟨h, rfl⟩
    exact .unsigned h

/-- The characters of a decimal integer. -/
theorem isDigit_or_sign_of_isDecimal {cs : List Char} {i : Int} (h : IsDecimal cs i) :
    ∀ c ∈ cs, c.isDigit = true ∨ c = '+' ∨ c = '-' := by
  cases h with
  | unsigned h => exact fun c hc => Or.inl (h.2 c hc)
  | plus h => exact List.forall_mem_cons.mpr ⟨by simp, fun c hc => Or.inl (h.2 c hc)⟩
  | minus h => exact List.forall_mem_cons.mpr ⟨by simp, fun c hc => Or.inl (h.2 c hc)⟩

theorem IsDecimal.ne_nil {cs : List Char} {i : Int} (h : IsDecimal cs i) : cs ≠ [] := by
  cases h with
  | unsigned h => exact h.1
  | plus h => exact List.cons_ne_nil _ _
  | minus h => exact List.cons_ne_nil _ _

/-- **The texts that are read as integers** are those that write an integer of 64 bits. -/
theorem readInt_eq_ok_iff {cs : List Char} {i : Int} : readInt cs = .ok i ↔ IsInt64 cs i := by
  have hread : ∀ {limit excess ds} {f : Int → Int},
      (readDigits 10 limit excess 0 ds >>= fun n => pure (n : Int)).map f = .ok i ↔
        (∀ c ∈ ds, c.isDigit = true) ∧ f (Nat.ofDigitChars 10 ds 0 : Nat) = i ∧
          Nat.ofDigitChars 10 ds 0 ≤ limit := by
    intro limit excess ds f
    have hdigits : ∀ m, readDigits 10 limit excess 0 ds = .ok m ↔ _ := fun m =>
      readDigits_eq_ok_iff (Nat.zero_le limit)
    cases hds : readDigits 10 limit excess 0 ds with
    | error fault =>
      refine ⟨fun h => (nomatch h), fun ⟨hall, _, hlimit⟩ => ?_⟩
      rw [(hdigits _).mpr ⟨hall, rfl, hlimit⟩] at hds
      cases hds
    | ok m =>
      obtain ⟨hall, rfl, hlimit⟩ := (hdigits m).mp hds
      exact ⟨fun h => ⟨hall, Except.ok.inj h, hlimit⟩, fun ⟨_, h, _⟩ => congrArg Except.ok h⟩
  unfold readInt IsInt64 maxInt64
  split
  · exact ⟨fun h => (nomatch h), fun ⟨h, _⟩ => absurd rfl h.ne_nil⟩
  · exact ⟨fun h => (nomatch h), fun ⟨h, _⟩ => absurd rfl (isDecimal_plus_iff.mp h).1.1⟩
  · exact ⟨fun h => (nomatch h), fun ⟨h, _⟩ => absurd rfl (isDecimal_minus_iff.mp h).1.1⟩
  · rename_i digits hne
    rw [hread, isDecimal_plus_iff, IsDigits]
    grind
  · rename_i digits hne
    rw [hread, isDecimal_minus_iff, IsDigits]
    grind
  · rename_i hne _ _ hplus hminus
    rw [hread, isDecimal_unsigned_iff hplus hminus, IsDigits]
    grind

end GladeGo.Text
