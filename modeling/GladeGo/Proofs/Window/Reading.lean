import GladeGo.Proofs.Go.Integer
import GladeGo.Proofs.Widget.Argument
import GladeGo.Window.Attach

/-! # Readings of child elements

The text of a child element is read in three ways: as a property that is set, as an argument of a
call, and as the number of a sizer item or a spacer. The readings agree, in what they give and in
how they fail. So a text means the same wherever an element has it (`readings_agree`). -/

namespace GladeGo

open Text (showInt)

variable {node : Node} {tag raw : String} {converter : Converter}

/-! ### Bindings -/

theorem Binding.ne_empty_of_evaluate {binding : Binding} {scope : Scope} {expression : String}
    (h : (binding.evaluate scope).result = .ok expression) : expression ≠ "" := by
  rw [Binding.result_evaluate] at h
  split at h
  · exact (presentValue_eq_ok_iff.mp h).2
  · split at h
    · cases h
    · exact (presentValue_eq_ok_iff.mp h).2

/-- A binding reads a child element that is there as a property is read, whatever its default. -/
theorem result_evaluate_of_text (h : node.elementText? tag = some raw) (converter : Converter)
    (default : Option String) (child : Option Node) :
    (Binding.evaluate ⟨.element tag, converter, default⟩ ⟨node, child⟩).result =
      convertProperty node tag raw converter := by
  have hraw : (Source.element tag).raw? ⟨node, child⟩ = some (.text raw) := by
    rw [Source.raw?, h, Option.map_some]
  rw [Binding.result_evaluate, convertProperty]
  simp only [hraw]
  rfl

theorem result_evaluate_of_absent (h : node.elementText? tag = none) (converter : Converter)
    (default : Option String) (child : Option Node) :
    (Binding.evaluate ⟨.element tag, converter, default⟩ ⟨node, child⟩).result =
      presentValue node tag none default := by
  have hraw : (Source.element tag).raw? ⟨node, child⟩ = none := by
    rw [Source.raw?, h, Option.map_none]
  rw [Binding.result_evaluate]
  simp only [hraw, Source.field]

/-! ### Properties and integers -/

theorem ne_empty_of_convertProperty {expression : String}
    (h : convertProperty node tag raw converter = .ok expression) : expression ≠ "" := by
  rw [convertProperty] at h
  split at h
  · cases h
  · exact (presentValue_eq_ok_iff.mp h).2

theorem showInt_ne_empty (i : Int) : showInt i ≠ "" := by
  intro h
  have hnumeral : Text.intNumeral i = [] := by simpa [showInt] using congrArg String.toList h
  exact absurd hnumeral (Go.intNumeral_ne_nil i)

theorem presentValue_showInt (field : String) (raw : Option String) (i : Int) :
    presentValue node field raw (some (showInt i)) = .ok (showInt i) :=
  presentValue_eq_ok_iff.mpr ⟨rfl, showInt_ne_empty i⟩

theorem convertProperty_integer : convertProperty node tag raw .integer =
    match Go.readInteger raw.toList with
    | .ok i => .ok (showInt i)
    | .error fault => .error (node.conversionFault tag raw (.literal (.notInteger fault))) := by
  rw [convertProperty, Converter.convert, Converter.convertText, Go.integer]
  cases Go.readInteger raw.toList with
  | ok i => exact presentValue_showInt tag (some raw) i
  | error fault => rfl

/-- **The number in a child element** is written as the argument that the element gives. -/
theorem map_showInt_integerField (node : Node) (tag : String) (default : Option Int)
    (child : Option Node) : (node.integerField tag default).map showInt =
      (Binding.evaluate ⟨.element tag, .integer, default.map showInt⟩ ⟨node, child⟩).result := by
  cases htext : node.elementText? tag with
  | some raw =>
    unfold Node.integerField
    rw [result_evaluate_of_text htext, convertProperty_integer, htext]
    dsimp only
    cases Go.readInteger raw.toList <;> rfl
  | none =>
    unfold Node.integerField
    rw [result_evaluate_of_absent htext, htext]
    cases default with
    | none => rfl
    | some i => exact (presentValue_showInt tag none i).symm

/-! ### Agreement -/

/-- **The readings of a child element agree.** A text that is there is read as a property and as an
argument with the same result, be it a value or a fault and with or without a default. The number
of an item is the one whose numeral is the argument, and where there is no number both readings
fail alike. No reading gives the empty expression. -/
theorem readings_agree (node : Node) (tag : String) (child : Option Node) :
    (∀ raw converter default, node.elementText? tag = some raw →
      (Binding.evaluate ⟨.element tag, converter, default⟩ ⟨node, child⟩).result =
        convertProperty node tag raw converter) ∧
    (∀ (default : Option Int) (i : Int), node.integerField tag default = .ok i ↔
      (Binding.evaluate ⟨.element tag, .integer, default.map showInt⟩ ⟨node, child⟩).result =
        .ok (showInt i)) ∧
    (∀ (default : Option Int) (fault : ResolutionFault),
      node.integerField tag default = .error fault ↔
        (Binding.evaluate ⟨.element tag, .integer, default.map showInt⟩ ⟨node, child⟩).result =
          .error fault) ∧
    (∀ raw converter expression,
      convertProperty node tag raw converter = .ok expression → expression ≠ "") ∧
    ∀ (binding : Binding) (expression : String),
      (binding.evaluate ⟨node, child⟩).result = .ok expression → expression ≠ "" := by
  refine ⟨fun raw converter default h => result_evaluate_of_text h converter default child,
    fun default i => ?_, fun default fault => ?_, fun _ _ _ => ne_empty_of_convertProperty,
    fun _ _ => Binding.ne_empty_of_evaluate⟩
  · rw [← map_showInt_integerField, map_eq_ok]
    constructor
    · exact fun h => ⟨i, h, rfl⟩
    · rintro ⟨j, hj, hshow⟩
      rw [hj, Go.showInt_inj hshow]
  · rw [← map_showInt_integerField, map_eq_error]

/-- A spacer whose width is written with blanks, a sign and zeros, and whose height is no number. -/
def paddedSpacer : Node where
  document := ⟨#[
    ⟨.document, none, #[1]⟩,
    ⟨.element "object" [("class", "spacer"), ("name", "gap"), ("base", "EditSpacer")], some 0,
      #[2, 4]⟩,
    ⟨.element "width" [], some 1, #[3]⟩,
    ⟨.text " +07 ", some 2, #[]⟩,
    ⟨.element "height" [], some 1, #[5]⟩,
    ⟨.text "tall", some 4, #[]⟩]⟩
  number := 1

theorem readings_agree_paddedSpacer :
    (Binding.evaluate ⟨.element "width", .integer, some "0"⟩ ⟨paddedSpacer, none⟩).result =
      .ok "7" ∧
    convertProperty paddedSpacer "width" " +07 " .integer = .ok "7" ∧
    "7" ≠ "" ∧
    (Binding.evaluate ⟨.element "height", .integer, none⟩ ⟨paddedSpacer, none⟩).result =
      .error (.conversion "object" "spacer" "height" "tall"
        (.literal (.notInteger .invalidDigit))) ∧
    (Binding.evaluate ⟨.element "option", .integer, some "0"⟩ ⟨paddedSpacer, none⟩).result =
      .ok "0" := by
  obtain ⟨hproperty, hnumber, -, hne, -⟩ := readings_agree paddedSpacer "width" none
  obtain ⟨-, -, hfault, -, -⟩ := readings_agree paddedSpacer "height" none
  obtain ⟨-, habsent, -, -, -⟩ := readings_agree paddedSpacer "option" none
  have hwidth := (hnumber (some 0) 7).mp (by decide +kernel)
  have hconvert := (hproperty " +07 " .integer (some "0") (by decide +kernel)).symm.trans hwidth
  exact ⟨hwidth, hconvert, hne _ _ _ hconvert, (hfault none _).mp (by decide +kernel),
    (habsent (some 0) 0).mp (by decide +kernel)⟩

end GladeGo
