import GladeGo.Proofs.Go.Argument
import GladeGo.Proofs.Go.Constant
import Mathlib.Data.Bool.AllAny

/-! # Go literals are arguments

Whatever a document writes for a value, the Go expression for the value is one argument of a call:
a string literal hides the text in it, and everything else is made of digits, names and complete
calls. -/

namespace GladeGo.Go

open GladeGo.Text

/-! ### Numerals -/

theorem not_mem_marks_of_mem_toDigits {base n : Nat} {c : Char} (hbase : 1 < base)
    (hlimit : base ≤ 16) (h : c ∈ Nat.toDigits base n) : c ∉ marks := by
  have hdigit : ∀ d < 16, Nat.digitChar d ∉ marks := by decide
  obtain ⟨d, hd, rfl⟩ := exists_digitChar_of_mem_toDigits hbase h
  exact hdigit d (by omega)

theorem not_mem_marks_of_mem_natDigits {n : Nat} {c : Char} (h : c ∈ natDigits n) : c ∉ marks :=
  not_mem_marks_of_mem_toDigits (by omega) (by omega) h

theorem not_mem_marks_of_mem_intNumeral {i : Int} {c : Char} (h : c ∈ intNumeral i) :
    c ∉ marks := by
  cases i with
  | ofNat n => exact not_mem_marks_of_mem_natDigits h
  | negSucc n =>
    rcases List.mem_cons.mp h with rfl | h
    · decide
    · exact not_mem_marks_of_mem_natDigits h

theorem intNumeral_ne_nil (i : Int) : intNumeral i ≠ [] := by
  cases i with
  | ofNat n => exact Nat.toDigits_ne_nil
  | negSucc n => exact List.cons_ne_nil _ _

/-! ### Strings -/

/-- What writes one character of a string literal leads from within the literal to within it. -/
theorem passes_stringChar (c : Char) (closers : List Char) :
    Place.Passes ⟨.string, closers⟩ (stringChar c) ⟨.string, closers⟩ := by
  have hbreak : ∀ d, isCoded d = false → ¬IsLineBreak d := by
    rintro d hd (rfl | rfl) <;> exact absurd hd (by decide)
  have hslash : Place.advance ⟨.string, closers⟩ '\\' = some ⟨.escape, closers⟩ := by
    simp [Place.advance, Place.next, Place.top, IsLineBreak]
  have hescape : ∀ letter, isCoded letter = false →
      Place.Passes ⟨.string, closers⟩ ['\\', letter] ⟨.string, closers⟩ := by
    intro letter hletter
    refine Place.passes_cons.mpr ⟨_, hslash, Place.passes_cons.mpr ⟨_, ?_, Place.passes_nil _⟩⟩
    exact Place.advance_eq_some_iff.mpr ⟨hbreak _ hletter, by simp [Place.top], rfl⟩
  unfold stringChar
  split_ifs with hquote hbackslash hline hreturn htab hcoded
  · exact hescape _ (by decide)
  · exact hescape _ (by decide)
  · exact hescape _ (by decide)
  · exact hescape _ (by decide)
  · exact hescape _ (by decide)
  · refine (hescape 'u' (by decide)).append (passes_of_not_mem_marks (fun d hd => ?_) (Or.inr rfl))
    rcases List.mem_append.mp hd with hzero | hdigit
    · rw [(List.mem_replicate.mp hzero).2]
      decide
    · exact not_mem_marks_of_mem_toDigits (by omega) (by omega) hdigit
  · rw [Bool.not_eq_true] at hcoded
    refine Place.passes_cons.mpr ⟨_, ?_, Place.passes_nil _⟩
    refine Place.advance_eq_some_iff.mpr ⟨hbreak c hcoded, by simp [Place.top], ?_⟩
    simp [Place.next, hquote, hbackslash]

theorem isArgument_string (s : String) : IsArgument (string s).toList := by
  have hquote : ∀ within within', Place.advance ⟨within, []⟩ '"' = some ⟨within', []⟩ →
      Place.Passes ⟨within, []⟩ ['"'] ⟨within', []⟩ :=
    fun within within' h => Place.passes_cons.mpr ⟨_, h, Place.passes_nil _⟩
  have hbody : ∀ cs : List Char,
      Place.Passes ⟨.string, []⟩ (cs.flatMap stringChar) ⟨.string, []⟩ := by
    intro cs
    induction cs with
    | nil => exact Place.passes_nil _
    | cons c cs ih =>
      rw [List.flatMap_cons]
      exact (passes_stringChar c []).append ih
  have hpasses := ((hquote .code .string (by decide)).append (hbody s.toList)).append
    (hquote .string .code (by decide))
  rw [string, String.toList_ofList]
  exact isArgument_of_stays (by simp [stringChars]) hpasses

/-! ### Integers and flags -/

theorem isArgument_showInt (i : Int) : IsArgument (showInt i).toList := by
  rw [showInt, String.toList_ofList]
  refine isArgument_of_stays (intNumeral_ne_nil i) (stays_of_not_mem_marks fun c hc => ?_)
  exact not_mem_marks_of_mem_intNumeral hc

theorem isArgument_integer {raw expression : String} (h : integer raw = .ok expression) :
    IsArgument expression.toList := by
  unfold integer at h
  split at h
  · cases h
    exact isArgument_showInt _
  · cases h

theorem isArgument_negatedFlag {raw expression : String}
    (h : negatedFlag raw = .ok expression) : IsArgument expression.toList := by
  have hbool : ∀ b, IsArgument (bool b).toList := by decide
  unfold negatedFlag at h
  split at h
  · cases h
    exact hbool _
  · cases h

/-! ### Calls -/

/-- The Go expression for a call is one argument, whatever its own arguments are. -/
theorem isArgument_callText {name : String} {arguments : List String}
    (hname : ∀ c ∈ name.toList, c ∉ marks)
    (h : ∀ argument ∈ arguments, Stays [')'] argument.toList) :
    IsArgument (name ++ "(" ++ ", ".intercalate arguments ++ ")").toList := by
  have hcall : (name ++ "(" ++ ", ".intercalate arguments ++ ")").toList =
      name.toList ++ '(' :: [',', ' '].intercalate (arguments.map String.toList) ++ [')'] := by
    simp [String.toList_intercalate]
  rw [hcall]
  refine isArgument_of_stays (by simp) (stays_call hname fun argument hargument => ?_)
  obtain ⟨text, htext, rfl⟩ := List.mem_map.mp hargument
  exact h text htext

theorem isArgument_size {raw expression : String} (h : size raw = .ok expression) :
    IsArgument expression.toList := by
  have hnumeral : ∀ i : Int, Stays [')'] (showInt i).toList := fun i => by
    rw [showInt, String.toList_ofList]
    exact stays_of_not_mem_marks fun c hc => not_mem_marks_of_mem_intNumeral hc
  unfold size at h
  split at h
  · cases h
  · rename_i width height _
    cases h
    have hsize : "wx.NewSize(" ++ showInt width ++ ", " ++ showInt height ++ ")" =
        "wx.NewSize" ++ "(" ++ ", ".intercalate [showInt width, showInt height] ++ ")" := by
      simp [String.append_assoc]
    rw [hsize]
    exact isArgument_callText (List.all_iff_forall_prop.mp (by decide)) (by simp [hnumeral])
  · cases h

theorem isArgument_colour {raw expression : String} (h : colour raw = .ok expression) :
    IsArgument expression.toList := by
  have hchannel : ∀ value : Nat, Stays [')'] (channel value).toList := fun value => by
    have hcall : (channel value).toList = "byte".toList ++ '(' ::
        [',', ' '].intercalate [natDigits value] ++ [')'] := by
      simp [channel, showNat, List.intercalate_singleton]
    rw [hcall]
    refine stays_call (List.all_iff_forall_prop.mp (by decide)) ?_
    simpa using stays_of_not_mem_marks fun c hc => not_mem_marks_of_mem_natDigits hc
  unfold colour at h
  split at h
  · split at h
    · split at h
      · rename_i values _
        cases h
        refine @isArgument_callText "wx.NewColour" _ (List.all_iff_forall_prop.mp (by decide))
          fun argument hargument => ?_
        obtain ⟨value, -, rfl⟩ := List.mem_map.mp hargument
        exact hchannel value
      · cases h
    · cases h
  · cases h

/-! ### Constants -/

theorem isArgument_constant {raw expression : String} (h : constant raw = .ok expression) :
    IsArgument expression.toList := by
  obtain ⟨pieces, hne, hpieces, hexpression⟩ := exists_pieces h
  have hmark : ∀ c ∈ marks, isPieceChar c = false := List.all_iff_forall_prop.mp (by decide)
  have hmarks : ∀ piece ∈ pieces, piece ≠ [] ∧ ∀ c ∈ piece, c ∉ marks := by
    intro piece hpiece
    obtain ⟨part, -, hpart⟩ := exists_of_mem_left hpieces.flip hpiece
    refine ⟨hpart.ne_nil, fun c hc hcmark => ?_⟩
    have hchar := hpart.pieceChars c hc
    rw [hmark c hcmark] at hchar
    cases hchar
  rw [hexpression]
  refine isArgument_of_stays ?_ (stays_intercalate ?_ fun piece hpiece => ?_)
  · obtain ⟨piece, others, rfl⟩ := List.exists_cons_of_ne_nil hne
    have hpiece := (hmarks piece List.mem_cons_self).1
    cases others <;> simp [List.intercalate_cons_cons, List.intercalate_singleton, hpiece]
  · exact stays_of_not_mem_marks (List.all_iff_forall_prop.mp (by decide))
  · exact stays_of_not_mem_marks (hmarks piece hpiece).2

end GladeGo.Go
