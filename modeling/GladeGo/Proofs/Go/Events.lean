import GladeGo.Proofs.Go.Lines
import Mathlib.Data.List.Induction

/-! # Handlers and the interface that declares them

The interface of a window is written from the handlers of its plan, and the statements that bind
events are written from the bindings. One list is the other without its repetitions
(`eraseDups_concat` is one turn of the loop that makes it), so an interface declares what the
statements name, each once, in the order in which it is first bound (`interface_declares`). -/

namespace GladeGo

/-! ### Handlers -/

section Repetitions
variable {α : Type} [BEq α] [LawfulBEq α] {a : α} {as : List α}

/-- One turn of the loop: a value is added if it is not there yet. -/
theorem eraseDups_concat :
    (as ++ [a]).eraseDups = if a ∈ as then as.eraseDups else as.eraseDups ++ [a] := by
  split_ifs with h <;> simp [List.eraseDups_append, List.removeAll, List.eraseDups_cons, h]

/-- What is added comes behind all that was there before. -/
theorem pairwise_eraseDups (as : List α) :
    as.eraseDups.Pairwise fun a b => as.idxOf a < as.idxOf b := by
  induction as using List.reverseRecOn with
  | nil => exact List.Pairwise.nil
  | append_singleton as a ih =>
    have hold : as.eraseDups.Pairwise fun b c => (as ++ [a]).idxOf b < (as ++ [a]).idxOf c := by
      refine ih.imp_of_mem fun hb hc hlt => ?_
      rwa [List.idxOf_append_of_mem (List.mem_eraseDups.mp hb),
        List.idxOf_append_of_mem (List.mem_eraseDups.mp hc)]
    rw [eraseDups_concat]
    split_ifs with h
    · exact hold
    · refine List.pairwise_append.mpr ⟨hold, List.pairwise_singleton _ a, fun b hb c hc => ?_⟩
      have hb := List.mem_eraseDups.mp hb
      rw [List.mem_singleton.mp hc, List.idxOf_append_of_mem hb, List.idxOf_append_of_notMem h]
      exact Nat.lt_add_right _ (List.idxOf_lt_length_iff.mpr hb)

/-- What stands in this order is not repeated. -/
theorem nodup_eraseDups (as : List α) : as.eraseDups.Nodup :=
  (pairwise_eraseDups as).imp fun hlt heq => Nat.ne_of_lt hlt (congrArg as.idxOf heq)

end Repetitions

namespace Go

variable {plan : WindowPlan}

/-! ### An interface read -/

/-- What stands between the beginning and the end of a line. -/
def between? (front back line : String) : Option String := do
  let rest ← front.toList.isPrefixOf? line.toList
  let text ← back.toList.isSuffixOf? rest
  return String.ofList text

/-- The name of an interface and the methods that it declares, each with an event as its argument.
There is nothing else in it. -/
def interfaceOf? : List String → Option (String × List String)
  | [] => none
  | opening :: lines => do
    let name ← between? "type " " interface \x7b" opening
    let methods ← lines.dropLast.mapM (between? "\t" "(wx.Event)")
    if lines.getLast? = some "\x7d" then return (name, methods) else none

theorem between?_append (front text back : String) :
    between? front back (front ++ text ++ back) = some text := by
  have hfront : front.toList.isPrefixOf? (front ++ text ++ back).toList =
      some (text ++ back).toList :=
    List.isPrefixOf?_eq_some_iff_append_eq.mpr (by simp)
  have hback : back.toList.isSuffixOf? (text ++ back).toList = some text.toList :=
    List.isSuffixOf?_eq_some_iff_append_eq.mpr (by simp)
  simp only [between?, hfront, hback, Option.bind_eq_bind, Option.bind_some, Option.pure_def,
    String.ofList_toList]

theorem interfaceOf?_block (name : String) (methods : List String) :
    interfaceOf? (block ("type " ++ name ++ " interface")
      (methods.map fun method => indented (method ++ "(wx.Event)"))) = some (name, methods) := by
  have hopening : between? "type " " interface \x7b" ("type " ++ name ++ " interface" ++ " \x7b") =
      some name := by
    rw [String.append_assoc]
    exact between?_append "type " name " interface \x7b"
  have hmethods : (methods.map fun method => indented (method ++ "(wx.Event)")).mapM
      (between? "\t" "(wx.Event)") = some methods := by
    have hmethod : (between? "\t" "(wx.Event)" ∘ fun method => indented (method ++ "(wx.Event)")) =
        fun method => pure method := by
      funext method
      rw [Function.comp_apply, indented, ← String.append_assoc, between?_append, Option.pure_def]
    rw [List.mapM_map, hmethod, List.mapM_pure, List.map_id', Option.pure_def]
  rw [block, List.cons_append, interfaceOf?, hopening, List.dropLast_concat, List.getLast?_concat,
    hmethods]
  rfl

/-! ### Statements read -/

/-- The line is a statement that binds an event. -/
def isBindLine (line : String) : Bool := "\twx.Bind(".toList.isPrefixOf line.toList

/-- The handler to which a statement binds an event. -/
def boundHandler? (line : String) : Option String := do
  let rest ← "\twx.Bind(".toList.isPrefixOf? line.toList
  let rest ← "out, wx.".toList.isPrefixOf? rest
  let rest ← ", handler.".toList.isPrefixOf? (rest.dropWhile (· ≠ ','))
  return String.ofList (rest.takeWhile (· ≠ ','))

theorem isBindLine_bindingLine (binding : EventBinding) : isBindLine (bindingLine binding) := by
  rw [isBindLine, bindingLine_toList]
  simp

theorem isBindLine_construction (construction : Construction) :
    isBindLine (constructionLine construction) = false := by
  rw [isBindLine, constructionLine_toList]
  rfl

theorem filter_isBindLine_bindings (bindings : List EventBinding) :
    (if bindings.isEmpty then [] else "" :: bindings.map bindingLine).filter isBindLine =
      bindings.map bindingLine := by
  have hbindings : (bindings.map bindingLine).filter isBindLine = bindings.map bindingLine := by
    refine List.filter_eq_self.mpr fun line hline => ?_
    obtain ⟨binding, -, rfl⟩ := List.mem_map.mp hline
    exact isBindLine_bindingLine binding
  cases bindings with
  | nil => rfl
  | cons binding bindings =>
    rw [List.isEmpty_cons, if_neg Bool.false_ne_true, List.filter_cons_of_neg (by decide),
      hbindings]

/-- The bindings are written one after the other, and no other line looks like one. -/
theorem filter_isBindLine_init (plan : WindowPlan) :
    (initLines plan).filter isBindLine = plan.bindings.map bindingLine := by
  have hopening : isBindLine ("func init" ++ plan.name ++ "(handler " ++ plan.name ++ "Events) *" ++
      plan.name ++ " \x7b") = false := by
    simp only [isBindLine, String.toList_append]
    rfl
  have hout : isBindLine (indented ("out := &" ++ plan.name ++ "\x7b\x7d")) = false := by
    simp only [isBindLine, indented, String.toList_append]
    rfl
  have hconstructions : ((windowConstruction plan :: plan.constructions).map
      constructionLine).filter isBindLine = [] := by
    refine List.filter_eq_nil_iff.mpr fun line hline => ?_
    obtain ⟨construction, -, rfl⟩ := List.mem_map.mp hline
    rw [isBindLine_construction]
    exact Bool.false_ne_true
  have hcalls : ["", indented "out.setProperties()", indented "out.doLayout()"].filter isBindLine =
      [] := by
    decide
  have hend : (["", indented "return out"] ++ ["\x7d"]).filter isBindLine = [] := by
    decide
  have hlines : initLines plan =
      ["func init" ++ plan.name ++ "(handler " ++ plan.name ++ "Events) *" ++ plan.name ++ " \x7b",
        indented ("out := &" ++ plan.name ++ "\x7b\x7d")] ++
      (windowConstruction plan :: plan.constructions).map constructionLine ++
      ["", indented "out.setProperties()", indented "out.doLayout()"] ++
      (if plan.bindings.isEmpty then [] else "" :: plan.bindings.map bindingLine) ++
      (["", indented "return out"] ++ ["\x7d"]) := by
    simp [initLines_eq, block, initBody]
  rw [hlines, List.filter_append, List.filter_append, List.filter_append, List.filter_append,
    List.filter_cons_of_neg (by rw [hopening]; exact Bool.false_ne_true),
    List.filter_cons_of_neg (by rw [hout]; exact Bool.false_ne_true), hconstructions, hcalls, hend,
    filter_isBindLine_bindings]
  simp

/-- A line that is no such statement names no handler. -/
theorem filterMap_boundHandler?_filter (lines : List String) :
    (lines.filter isBindLine).filterMap boundHandler? = lines.filterMap boundHandler? := by
  rw [List.filterMap_filter]
  refine List.filterMap_congr fun line _ => ?_
  split_ifs with hline
  · rfl
  · have hnone : "\twx.Bind(".toList.isPrefixOf? line.toList = none :=
      Option.not_isSome_iff_eq_none.mp (by rwa [List.isSome_isPrefixOf?_eq_isPrefixOf])
    rw [boundHandler?, hnone]
    rfl

/-- The commas of the call tell the handler, if there are no others in front of it or in it. -/
theorem boundHandler?_bindingLine {binding : EventBinding} (hevent : ',' ∉ binding.event.toList)
    (hhandler : ',' ∉ binding.handler.toList) :
    boundHandler? (bindingLine binding) = some binding.handler := by
  have hcall : "\twx.Bind(out, wx.".toList = "\twx.Bind(".toList ++ "out, wx.".toList := by decide
  have hargument : ∀ cs, ", handler.".toList.isPrefixOf? (',' :: (" handler.".toList ++ cs)) =
      some cs := isPrefixOf?_append (',' :: " handler.".toList)
  rw [boundHandler?, bindingLine_toList, hcall, List.append_assoc, isPrefixOf?_append]
  simp only [Option.bind_eq_bind, Option.bind_some]
  rw [isPrefixOf?_append, Option.bind_some, dropWhile_append_stop hevent, hargument,
    Option.bind_some, takeWhile_append_stop hhandler, String.ofList_toList, Option.pure_def]

theorem filterMap_boundHandler?_init
    (h : ∀ binding ∈ plan.bindings, ',' ∉ binding.event.toList ∧ ',' ∉ binding.handler.toList) :
    (initLines plan).filterMap boundHandler? = plan.bindings.map EventBinding.handler := by
  rw [← filterMap_boundHandler?_filter, filter_isBindLine_init, List.filterMap_map,
    ← List.filterMap_eq_map]
  exact List.filterMap_congr fun binding hbinding =>
    boundHandler?_bindingLine (h binding hbinding).1 (h binding hbinding).2

/-! ### Interfaces and statements -/

/-- A section of a well-shaped plan is written line by line. -/
theorem linesOf_windowSection (h : plan.IsWellShaped) {lines : List String}
    (hlines : lines ∈ windowSections plan) :
    linesOf ("\n".intercalate lines ++ "\n") = lines ++ [""] := by
  have hline : ∀ line ∈ lines, IsLine line := fun line hline =>
    isLine_of_mem_planLines h line
      (List.mem_flatMap.mpr ⟨lines, hlines, List.mem_cons_of_mem _ hline⟩)
  refine linesOf_section ?_ hline
  rintro rfl
  simp [windowSections, structLines, interfaceLines, initLines, layoutLines, propertyLines, block]
    at hlines

/-- **An interface declares the handlers that are bound**, each once and in the order in which it is
first bound, and nothing else. Every binding is written, also one of a handler that is bound
already. This is said of the lines of the two sections, whatever texts a plan holds; without commas
in the names of events and handlers the statements themselves tell the handlers, and the lines are
those of the written text if the plan is well shaped. -/
theorem interface_declares (plan : WindowPlan) : ∃ methods,
    interfaceOf? (interfaceLines plan) = some (plan.name ++ "Events", methods) ∧
    methods.Nodup ∧
    (∀ method, method ∈ methods ↔ ∃ binding ∈ plan.bindings, binding.handler = method) ∧
    (methods.Pairwise fun method other =>
      (plan.bindings.map EventBinding.handler).idxOf method <
        (plan.bindings.map EventBinding.handler).idxOf other) ∧
    (initLines plan).filter isBindLine = plan.bindings.map bindingLine ∧
    ((∀ binding ∈ plan.bindings, ',' ∉ binding.event.toList ∧ ',' ∉ binding.handler.toList) →
      (initLines plan).filterMap boundHandler? = plan.bindings.map EventBinding.handler) ∧
    (plan.IsWellShaped → ∀ lines ∈ [interfaceLines plan, initLines plan],
      linesOf ("\n".intercalate lines ++ "\n") = lines ++ [""]) := by
  refine ⟨plan.handlers, ?_, nodup_eraseDups _, fun method => ?_, pairwise_eraseDups _,
    filter_isBindLine_init plan, filterMap_boundHandler?_init, fun h lines hlines => ?_⟩
  · have hend : "Events interface" = "Events" ++ " interface" := by decide
    have hopening : "type " ++ plan.name ++ "Events interface" =
        "type " ++ (plan.name ++ "Events") ++ " interface" := by
      rw [hend]
      simp only [String.append_assoc]
    rw [interfaceLines, hopening]
    exact interfaceOf?_block (plan.name ++ "Events") plan.handlers
  · exact List.mem_eraseDups.trans List.mem_map
  · refine linesOf_windowSection h ?_
    simp only [List.mem_cons, List.not_mem_nil, or_false] at hlines
    rcases hlines with rfl | rfl <;> simp [windowSections]

/-- A plan in which two widgets share a handler. -/
def sharedPlan : WindowPlan where
  __ := setterPlan none
  bindings := [⟨"OnSave", "EVT_BUTTON", "save"⟩, ⟨"OnQuit", "EVT_MENU", "quit"⟩,
    ⟨"OnSave", "EVT_MENU", "store"⟩]

theorem interface_declares_sharedPlan : ∃ methods,
    interfaceOf? (interfaceLines sharedPlan) = some ("MainEvents", methods) ∧
    methods.Nodup ∧ (∀ method, method ∈ methods ↔ method = "OnSave" ∨ method = "OnQuit") ∧
    (initLines sharedPlan).filterMap boundHandler? = ["OnSave", "OnQuit", "OnSave"] ∧
    linesOf ("\n".intercalate (interfaceLines sharedPlan) ++ "\n") =
      ["type MainEvents interface \x7b", "\tOnSave(wx.Event)", "\tOnQuit(wx.Event)", "\x7d",
        ""] := by
  obtain ⟨methods, hread, hnodup, hmem, -, -, hnames, htext⟩ := interface_declares sharedPlan
  have hshaped : sharedPlan.IsWellShaped := by
    constructor <;> decide +kernel
  refine ⟨methods, hread, hnodup, fun method => ?_, hnames (by decide +kernel), ?_⟩
  · rw [hmem]
    constructor
    · rintro ⟨binding, hbinding, rfl⟩
      revert binding
      decide
    · rintro (rfl | rfl) <;> decide
  · exact htext hshaped _ List.mem_cons_self

end Go

end GladeGo
