import GladeGo.Go.Literal
import GladeGo.Proofs.Text.Numeral
import Mathlib.Data.Option.Basic

/-! # Go integer literals

`integerLiteral` reads the integer literals of Go: decimal digits without a zero in front, or
binary, octal or hexadecimal digits behind a prefix, where a zero alone is the prefix of octal
digits. Decimal digits are therefore read as the number that they write if no zero stands in front
of them; with a zero in front they are no literal, or one of a smaller number, unless it is less
than eight (`integerLiteral_eq_iff`). What `integer` writes has no zeros in front, and keeps its
value (`integer_kept`). -/

namespace GladeGo.Go

open GladeGo.Text

/-! ### The lexer -/

/-- The value of a digit of the given base. -/
def literalDigit (base : Nat) (c : Char) : Option Nat :=
  (digitValue c).filter fun d => decide (d < base)

/-- Reads digits of the given base after a number `n` read so far. One underscore may stand before
each digit. -/
def literalDigits (base n : Nat) : List Char → Option Nat
  | [] => some n
  | '_' :: c :: cs => do literalDigits base (n * base + (← literalDigit base c)) cs
  | c :: cs => do literalDigits base (n * base + (← literalDigit base c)) cs

/-- Reads the digits behind the prefix of a literal. There is one at least. -/
def prefixedDigits (base : Nat) (cs : List Char) : Option Nat :=
  if cs = [] then none else literalDigits base 0 cs

/-- The value of a text as an integer literal of Go. -/
def integerLiteral : List Char → Option Nat
  | [] => none
  | ['0'] => some 0
  | '0' :: c :: cs =>
    if c = 'b' ∨ c = 'B' then prefixedDigits 2 cs
    else if c = 'o' ∨ c = 'O' then prefixedDigits 8 cs
    else if c = 'x' ∨ c = 'X' then prefixedDigits 16 cs
    else literalDigits 8 0 (c :: cs)
  | c :: cs => do literalDigits 10 (← literalDigit 10 c) cs

/-- The value of a text as an integer literal of Go with one sign before it or none. -/
def integerConstant : List Char → Option Int
  | '+' :: cs => (integerLiteral cs).map fun n : Nat => (n : Int)
  | '-' :: cs => (integerLiteral cs).map fun n : Nat => -(n : Int)
  | cs => (integerLiteral cs).map fun n : Nat => (n : Int)

/-- A text without the sign before it. -/
def withoutSign : List Char → List Char
  | '+' :: cs => cs
  | '-' :: cs => cs
  | cs => cs

/-! ### Decimal digits -/

theorem literalDigit_of_isDigit {base : Nat} {c : Char} (h : c.isDigit = true) :
    literalDigit base c =
      if c.toNat - '0'.toNat < base then some (c.toNat - '0'.toNat) else none := by
  rw [literalDigit, (digitValue_of_isDigit h).1, Option.filter_some]
  simp only [decide_eq_true_eq]

theorem literalDigits_cons {base n : Nat} {c : Char} (h : c.isDigit = true) (cs : List Char) :
    literalDigits base n (c :: cs) = if c.toNat - '0'.toNat < base then
      literalDigits base (n * base + (c.toNat - '0'.toNat)) cs else none := by
  rw [literalDigits, literalDigit_of_isDigit h]
  · split <;> rfl
  · rintro d ds rfl -
    exact absurd h (by decide)

theorem literalDigits_decimal {cs : List Char} (h : ∀ c ∈ cs, c.isDigit = true) (n : Nat) :
    literalDigits 10 n cs = some (Nat.ofDigitChars 10 cs n) := by
  induction cs generalizing n with
  | nil => rw [literalDigits, Nat.ofDigitChars_nil]
  | cons c cs ih =>
    rw [List.forall_mem_cons] at h
    rw [literalDigits_cons h.1, if_pos (digitValue_of_isDigit h.1).2, ih h.2,
      Nat.ofDigitChars_cons, Nat.mul_comm]

/-- Octal digits do not make up for what a number lacks. -/
theorem literalDigits_octal_lt {cs : List Char} (h : ∀ c ∈ cs, c.isDigit = true) {m n value : Nat}
    (hlt : m < n) (hread : literalDigits 8 m cs = some value) :
    value < Nat.ofDigitChars 10 cs n := by
  induction cs generalizing m n with
  | nil =>
    rw [Nat.ofDigitChars_nil]
    rw [literalDigits] at hread
    cases hread
    exact hlt
  | cons c cs ih =>
    rw [List.forall_mem_cons] at h
    rw [literalDigits_cons h.1] at hread
    rw [Nat.ofDigitChars_cons]
    split at hread
    · exact ih h.2 (by omega) hread
    · cases hread

/-- **Octal and decimal digits** are read as the same number exactly if it is less than eight. -/
theorem literalDigits_octal_eq_iff {cs : List Char} (h : ∀ c ∈ cs, c.isDigit = true) :
    literalDigits 8 0 cs = some (Nat.ofDigitChars 10 cs 0) ↔ Nat.ofDigitChars 10 cs 0 < 8 := by
  induction cs with
  | nil => simp [literalDigits]
  | cons c cs ih =>
    rw [List.forall_mem_cons] at h
    rw [literalDigits_cons h.1, Nat.ofDigitChars_cons, Nat.zero_mul, Nat.zero_add]
    generalize c.toNat - '0'.toNat = d
    split
    · rcases Nat.eq_zero_or_pos d with rfl | hd
      · exact ih h.2
      · cases cs with
        | nil => simpa [literalDigits]
        | cons c' cs =>
          -- A second digit makes the octal number smaller, and the decimal one more than ten.
          have hdigits := List.forall_mem_cons.mp h.2
          rw [literalDigits_cons hdigits.1, Nat.ofDigitChars_cons]
          have hle := le_ofDigitChars cs (10 * d + (c'.toNat - '0'.toNat))
          refine ⟨fun hread => ?_, fun hlt => by omega⟩
          split at hread
          · have := literalDigits_octal_lt hdigits.2 (n := 10 * d + (c'.toNat - '0'.toNat))
              (by omega) hread
            omega
          · cases hread
    · have hle := le_ofDigitChars cs d
      exact ⟨fun hread => (nomatch hread), fun hlt => by omega⟩

/-- **Decimal digits as a literal** have the value that they write exactly if there is no zero in
front of them, or the value is less than eight. -/
theorem integerLiteral_eq_iff {cs : List Char} (h : IsDigits cs) :
    integerLiteral cs = some (Nat.ofDigitChars 10 cs 0) ↔
      cs.head? ≠ some '0' ∨ Nat.ofDigitChars 10 cs 0 < 8 := by
  obtain ⟨hne, hdigits⟩ := h
  unfold integerLiteral
  split
  · exact absurd rfl hne
  · simp [Nat.ofDigitChars_cons]
  · rename_i c cs
    rw [List.forall_mem_cons] at hdigits
    obtain ⟨hc, -⟩ := List.forall_mem_cons.mp hdigits.2
    have hletter : ∀ {letter}, letter.isDigit = false → c ≠ letter := by
      rintro letter hletter rfl
      rw [hc] at hletter
      cases hletter
    rw [if_neg (by simp [hletter]), if_neg (by simp [hletter]), if_neg (by simp [hletter]),
      Nat.ofDigitChars_cons]
    simpa using literalDigits_octal_eq_iff hdigits.2
  · rename_i c cs hzero hzeros
    rw [List.forall_mem_cons] at hdigits
    have hc : c ≠ '0' := by
      rintro rfl
      cases cs with
      | nil => exact hzero rfl rfl
      | cons c' cs => exact hzeros c' cs rfl rfl
    rw [literalDigit_of_isDigit hdigits.1, if_pos (digitValue_of_isDigit hdigits.1).2,
      Nat.ofDigitChars_cons]
    simp [literalDigits_decimal hdigits.2, hc]

/-! ### Integers with a sign -/

theorem withoutSign_of_isDigits {cs : List Char} (h : IsDigits cs) :
    withoutSign cs = cs ∧
      integerConstant cs = (integerLiteral cs).map fun n : Nat => (n : Int) := by
  have hsign : ∀ {sign : Char}, sign.isDigit = false → ∀ ds, cs ≠ sign :: ds := by
    rintro sign hsign ds rfl
    rw [h.2 sign List.mem_cons_self] at hsign
    cases hsign
  unfold withoutSign integerConstant
  split
  · exact absurd rfl (hsign (by decide) _)
  · exact absurd rfl (hsign (by decide) _)
  · exact ⟨rfl, rfl⟩

/-- **A decimal integer as a constant** has the value that it writes exactly if there is no zero in
front of its digits, or the value is a single octal digit. -/
theorem integerConstant_eq_iff {cs : List Char} {i : Int} (h : IsDecimal cs i) :
    integerConstant cs = some i ↔ (withoutSign cs).head? ≠ some '0' ∨ i.natAbs < 8 := by
  have hvalue : ∀ {literal : Option Nat} {f : Nat → Int} {n : Nat}, Function.Injective f →
      (literal.map f = some (f n) ↔ literal = some n) := by
    intro literal f n hf
    rw [← Option.map_some, (Option.map_injective hf).eq_iff]
  cases h with
  | unsigned h =>
    obtain ⟨hsign, hconstant⟩ := withoutSign_of_isDigits h
    rw [hconstant, hsign, Int.natAbs_natCast, ← integerLiteral_eq_iff h]
    exact hvalue fun _ _ => Int.ofNat_inj.mp
  | plus h =>
    rw [integerConstant, withoutSign, Int.natAbs_natCast, ← integerLiteral_eq_iff h]
    exact hvalue fun _ _ => Int.ofNat_inj.mp
  | minus h =>
    rw [integerConstant, withoutSign, Int.natAbs_neg, Int.natAbs_natCast,
      ← integerLiteral_eq_iff h]
    exact hvalue fun _ _ heq => Int.ofNat_inj.mp (Int.neg_inj.mp heq)

/-! ### Canonical numerals -/

theorem head?_natDigits {n : Nat} (hn : n ≠ 0) : (natDigits n).head? ≠ some '0' := by
  unfold natDigits
  induction n using Nat.strongRecOn with
  | ind n ih =>
    rw [Nat.toDigits_eq_if (by omega)]
    split
    · rename_i hlt
      have hdigit : ∀ d < 10, d ≠ 0 → [Nat.digitChar d].head? ≠ some '0' := by decide
      exact hdigit n hlt hn
    · rename_i hlt
      rw [List.head?_append, Option.or_of_isSome (by simp [Nat.toDigits_ne_nil])]
      exact ih (n / 10) (by omega) (by omega)

theorem isDigits_natDigits (n : Nat) : IsDigits (natDigits n) :=
  ⟨Nat.toDigits_ne_nil, fun _ hc => Nat.isDigit_of_mem_toDigits (by omega) (by omega) hc⟩

theorem withoutSign_intNumeral (i : Int) : withoutSign (intNumeral i) = natDigits i.natAbs := by
  cases i with
  | ofNat n => exact (withoutSign_of_isDigits (isDigits_natDigits n)).1
  | negSucc n => rfl

theorem isDecimal_intNumeral (i : Int) : IsDecimal (intNumeral i) i := by
  have hvalue : ∀ n, Nat.ofDigitChars 10 (natDigits n) 0 = n := fun n => by simp [natDigits]
  cases i with
  | ofNat n =>
    have h := IsDecimal.unsigned (isDigits_natDigits n)
    rwa [hvalue] at h
  | negSucc n =>
    have h := IsDecimal.minus (isDigits_natDigits (n + 1))
    rwa [hvalue] at h

/-- **The numeral of an integer is a constant with its value.** -/
theorem integerConstant_intNumeral (i : Int) : integerConstant (intNumeral i) = some i := by
  rw [integerConstant_eq_iff (isDecimal_intNumeral i), withoutSign_intNumeral]
  rcases Nat.eq_zero_or_pos i.natAbs with hzero | hpos
  · exact Or.inr (by omega)
  · exact Or.inl (head?_natDigits (by omega))

/-- **What `integer` writes** is a constant with the value that was read. -/
theorem integer_kept {raw expression : String} (h : integer raw = .ok expression) :
    ∃ i, IsInt64 (trimChars raw.toList) i ∧ integerConstant expression.toList = some i := by
  unfold integer at h
  split at h
  · rename_i i hread
    cases h
    refine ⟨i, readInt_eq_ok_iff.mp hread, ?_⟩
    rw [showInt, String.toList_ofList]
    exact integerConstant_intNumeral i
  · cases h

end GladeGo.Go
