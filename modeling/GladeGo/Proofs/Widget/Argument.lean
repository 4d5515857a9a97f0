import GladeGo.Proofs.Go.Literal
import GladeGo.Widget.WxGo

/-! # The arguments of generated calls

Each slot of a call gives one argument, whatever the document says: the expression that the class
writes itself, or a converted value, and a conversion that succeeds gives one argument
(`isArgument_convert`). So the commas of an argument list separate the values of its slots, and no
text in a document moves an argument to another place. -/

namespace GladeGo

open Go (IsArgument splitArguments argumentPieces)

/-! ### Values of slots -/

/-- **A conversion that succeeds gives one argument.** -/
theorem isArgument_convert {converter : Converter} {raw : RawValue} {expression : String}
    (h : converter.convert raw = .ok (some expression)) : IsArgument expression.toList := by
  cases raw with
  | text content =>
    have h := map_some_eq_ok.mp h
    cases converter with
    | string => cases h; exact Go.isArgument_string content
    | integer => exact Go.isArgument_integer (mapError_eq_ok.mp h)
    | constant => exact Go.isArgument_constant (mapError_eq_ok.mp h)
    | size => exact Go.isArgument_size (mapError_eq_ok.mp h)
    | colour => exact Go.isArgument_colour (mapError_eq_ok.mp h)
    | negatedFlag => exact Go.isArgument_negatedFlag (mapError_eq_ok.mp h)
    | tabLabel => cases h
  | node subject =>
    cases converter with
    | tabLabel =>
      obtain ⟨name, -, hlabel⟩ := Option.bind_eq_some_iff.mp (Except.ok.inj h)
      obtain ⟨tab, -, hlabel⟩ := Option.bind_eq_some_iff.mp hlabel
      cases hlabel
      exact Go.isArgument_string tab.text
    | _ => cases h

/-- The values that a slot has in a scope: the expression that the class writes for it, or the
default if there is nothing to read, or what is read, converted. -/
inductive Slot.HasValue (scope : Scope) : Slot → String → Prop
  | fixed (expression : String) : HasValue scope (.fixed expression) expression
  | default {binding : Binding} {expression : String} (habsent : binding.source.raw? scope = none)
      (hdefault : binding.default = some expression) : HasValue scope (.bound binding) expression
  | converted {binding : Binding} {raw : RawValue} {expression : String}
      (hraw : binding.source.raw? scope = some raw)
      (hconvert : binding.converter.convert raw = .ok (some expression)) :
      HasValue scope (.bound binding) expression

theorem presentValue_eq_ok_iff {node : Node} {field expression : String}
    {raw value : Option String} : presentValue node field raw value = .ok expression ↔
      value = some expression ∧ expression ≠ "" := by
  unfold presentValue
  split
  · simp
  · rename_i found
    by_cases hfound : found = ""
    · rw [if_pos hfound]
      exact ⟨fun h => (nomatch h), fun ⟨h, hne⟩ => absurd (Option.some.inj h ▸ hfound) hne⟩
    · rw [if_neg hfound, Except.ok.injEq, Option.some.injEq]
      exact ⟨fun h => ⟨h, h ▸ hfound⟩, And.left⟩

/-- The result of a binding, without what it logs. -/
theorem Binding.result_evaluate (binding : Binding) (scope : Scope) :
    (binding.evaluate scope).result =
      match binding.source.raw? scope with
      | none => presentValue scope.node binding.source.field none binding.default
      | some raw =>
        match binding.converter.convert raw with
        | .error fault =>
          .error (scope.node.conversionFault binding.source.field raw.display fault)
        | .ok value => presentValue scope.node binding.source.field (some raw.display) value := by
  unfold Binding.evaluate
  cases binding.source.raw? scope with
  | none => rfl
  | some raw =>
    dsimp only
    rw [Logged.result_bind, Logged.result_log, ok_bind]
    cases binding.converter.convert raw <;> rfl

/-- What a binding gives for a value that is there. -/
theorem Binding.result_evaluate_eq_ok_iff {binding : Binding} {scope : Scope} {raw : RawValue}
    {expression : String} (hraw : binding.source.raw? scope = some raw) :
    (binding.evaluate scope).result = .ok expression ↔
      binding.converter.convert raw = .ok (some expression) ∧ expression ≠ "" := by
  rw [Binding.result_evaluate, hraw]
  dsimp only
  cases binding.converter.convert raw with
  | error fault => simp
  | ok value => simp [presentValue_eq_ok_iff]

/-- What a slot gives that is bound to a child element and has no default. -/
theorem result_evaluate_ofElement_eq_ok_iff {tag expression : String} {converter : Converter}
    {scope : Scope} : ((Slot.ofElement tag converter none).evaluate scope).result = .ok expression ↔
      ∃ raw, scope.node.elementText? tag = some raw ∧ converter.convertText raw = .ok expression ∧
        expression ≠ "" := by
  rw [Slot.ofElement, Slot.evaluate]
  cases htext : scope.node.elementText? tag with
  | none =>
    have hraw : (Source.element tag).raw? scope = none := by rw [Source.raw?, htext, Option.map_none]
    simp [Binding.evaluate, hraw, presentValue]
  | some raw =>
    have hraw : (Source.element tag).raw? scope = some (.text raw) := by
      rw [Source.raw?, htext, Option.map_some]
    rw [Binding.result_evaluate_eq_ok_iff hraw, Converter.convert, map_some_eq_ok]
    simp

theorem hasValue_of_evaluate {slot : Slot} {scope : Scope} {expression : String}
    (h : (slot.evaluate scope).result = .ok expression) : slot.HasValue scope expression := by
  cases slot with
  | fixed own => cases h; exact .fixed _
  | bound binding =>
    rw [Slot.evaluate, Binding.result_evaluate] at h
    split at h
    · rename_i habsent
      exact .default habsent (presentValue_eq_ok_iff.mp h).1
    · rename_i raw hraw
      split at h
      · cases h
      · rename_i value hconvert
        obtain ⟨rfl, -⟩ := presentValue_eq_ok_iff.mp h
        exact .converted hraw hconvert

/-- The expressions that a class writes itself for a slot. -/
def Slot.ownExpressions : Slot → List String
  | .fixed expression => [expression]
  | .bound binding => binding.default.toList

theorem Slot.HasValue.isArgument {slot : Slot} {scope : Scope} {expression : String}
    (h : slot.HasValue scope expression)
    (hown : ∀ own ∈ slot.ownExpressions, IsArgument own.toList) : IsArgument expression.toList := by
  cases h with
  | fixed => exact hown expression (List.mem_singleton.mpr rfl)
  | default habsent hdefault => exact hown expression (Option.mem_toList.mpr hdefault)
  | converted hraw hconvert => exact isArgument_convert hconvert

/-! ### Argument lists -/

theorem result_renderArguments_singleton (slot : Slot) (scope : Scope) :
    (renderArguments [slot] scope).result = (slot.evaluate scope).result.map some := by
  simp only [renderArguments, Logged.result_bind, Logged.result_pure, List.mapM_cons,
    List.mapM_nil]
  cases (slot.evaluate scope).result with
  | error fault => rfl
  | ok argument => simp [Except.map, ok_bind]

/-- The commas of an argument list separate the values of its slots, if what the class writes itself
is made of arguments. -/
theorem splitArguments_of_renderArguments {slots : List Slot} {scope : Scope} {text : String}
    (hown : ∀ slot ∈ slots, ∀ own ∈ slot.ownExpressions, IsArgument own.toList)
    (h : (renderArguments slots scope).result = .ok (some text)) :
    ∃ values, List.Forall₂ (Slot.HasValue scope) slots values ∧
      splitArguments text.toList = some (argumentPieces values) := by
  unfold renderArguments at h
  split at h
  · cases h
  · rename_i hslots
    rw [Logged.result_bind, Logged.result_mapM, bind_eq_ok] at h
    obtain ⟨values, hvalues, h⟩ := h
    cases h
    have hforall : List.Forall₂ (Slot.HasValue scope) slots values :=
      (mapM_eq_ok_iff.mp hvalues).imp fun _ _ => hasValue_of_evaluate
    refine ⟨values, hforall, Go.splitArguments_intercalate ?_ fun value hvalue => ?_⟩
    · rintro rfl
      exact hslots (List.forall₂_nil_right_iff.mp hforall)
    · obtain ⟨slot, hslot, hhas⟩ := exists_of_mem_left (forall₂_and_mem hforall).flip hvalue
      exact hhas.1.isArgument (hown slot hhas.2.1)

/-- The argument lists that a descriptor has slots for: those of the constructor and, for a
container, of the call that attaches an object. -/
def Descriptor.slotLists : Descriptor → List (List Slot)
  | .widget w => [w.arguments]
  | .container c => [c.arguments, c.itemArguments]
  | .custom _ => []

theorem isArgument_of_wxgo : ∀ descriptor ∈ Registry.wxgo.descriptors,
    ∀ slots ∈ descriptor.slotLists, ∀ slot ∈ slots, ∀ own ∈ slot.ownExpressions,
      IsArgument own.toList := by
  decide

/-- **No document changes how many arguments a call has.** What a conversion gives is one argument:
it is not empty and breaks no line, its brackets are balanced, and its commas stand in brackets or
literals. So the commas of an argument list separate exactly the values of its slots, in their
order. -/
theorem wxgo_arguments_separate :
    (∀ (converter : Converter) (raw : RawValue) (expression : String),
      converter.convert raw = .ok (some expression) → IsArgument expression.toList) ∧
    ∀ descriptor ∈ Registry.wxgo.descriptors, ∀ slots ∈ descriptor.slotLists,
      ∀ (scope : Scope) (text : String),
        (renderArguments slots scope).result = .ok (some text) →
        ∃ values, List.Forall₂ (Slot.HasValue scope) slots values ∧
          splitArguments text.toList = some (argumentPieces values) := by
  refine ⟨fun converter raw expression => isArgument_convert, ?_⟩
  intro descriptor hdescriptor slots hslots scope text h
  exact splitArguments_of_renderArguments (isArgument_of_wxgo descriptor hdescriptor slots hslots) h

/-- A button whose label has marks of Go code in it. -/
def markedButton : Node where
  document := ⟨#[
    ⟨.document, none, #[1]⟩,
    ⟨.element "object" [("class", "wxButton"), ("name", "go"), ("base", "EditButton")], some 0,
      #[2]⟩,
    ⟨.element "label" [], some 1, #[3]⟩,
    ⟨.text "\"a\", (\\", some 2, #[]⟩]⟩
  number := 1

/-- The arguments of its constructor, after the parent. -/
def markedButtonArguments : String :=
  "wx.ID_ANY, \"\\\"a\\\", (\\\\\", wx.DefaultPosition, wx.DefaultSize, 0, wx.DefaultValidator, " ++
    "\"\\\"a\\\", (\\\\\""

theorem wxgo_arguments_separate_markedButton :
    IsArgument "wx.NewSize(1, -2)".toList ∧
    ∃ values, List.Forall₂ (Slot.HasValue ⟨markedButton, none⟩) plainWidgets[3].arguments values ∧
      values.length = 7 ∧
      splitArguments markedButtonArguments.toList = some (argumentPieces values) := by
  have hsize : Converter.size.convert (.text "1, -2") = .ok (some "wx.NewSize(1, -2)") :=
    eq_ok_of_toOption (by decide +kernel)
  have hbutton : Descriptor.widget plainWidgets[3] ∈ Registry.wxgo.descriptors := by decide +kernel
  have htext : (renderArguments plainWidgets[3].arguments ⟨markedButton, none⟩).result =
      .ok (some markedButtonArguments) := eq_ok_of_toOption (by decide +kernel)
  obtain ⟨values, hvalues, hsplit⟩ := wxgo_arguments_separate.2 _ hbutton _
    (List.mem_singleton.mpr rfl) _ _ htext
  exact ⟨wxgo_arguments_separate.1 _ _ _ hsize, values, hvalues, hvalues.length_eq.symm, hsplit⟩

end GladeGo
