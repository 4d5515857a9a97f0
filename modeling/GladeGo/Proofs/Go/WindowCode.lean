import GladeGo.Go.WindowCode
import GladeGo.Proofs.Go.Identifier
import GladeGo.Proofs.Go.StringLiteral
import GladeGo.Proofs.Run

/-! # Window code read back

The code for a window plan tells what the plan says, if the plan is well shaped: its names are
identifiers, and no expression in it breaks a line. -/

namespace GladeGo

open Go

namespace Go

/-! ### Lines -/

/-- The text does not break a line. -/
def IsLine (text : String) : Prop := '\n' ∉ text.toList

@[simp] theorem isLine_append {s t : String} : IsLine (s ++ t) ↔ IsLine s ∧ IsLine t := by
  simp [IsLine, not_or]

instance (text : String) : Decidable (IsLine text) :=
  inferInstanceAs (Decidable ('\n' ∉ text.toList))

theorem isLine_string (s : String) : IsLine (string s) :=
  fun h => ((string_lossless s []).2.1 _ h).2.1 rfl

theorem IsIdentifier.isLine {name : String} (h : IsIdentifier name) : IsLine name :=
  h.not_mem (by decide)

theorem IsDotted.isLine {name : String} (h : IsDotted name) : IsLine name :=
  h.not_mem (by decide) (by decide)

/-- The lines that stand inside of a block: they are empty or begin with a tab. -/
def IsBody (lines : List String) : Prop :=
  ∀ line ∈ lines, line = "" ∨ ∃ text, line = indented text ∧ IsLine text

theorem isBody_nil : IsBody [] := fun _ h => nomatch h

theorem isBody_append {lines others : List String} (hlines : IsBody lines)
    (hothers : IsBody others) : IsBody (lines ++ others) :=
  List.forall_mem_append.mpr ⟨hlines, hothers⟩

theorem isBody_empty {lines : List String} (h : IsBody lines) : IsBody ("" :: lines) :=
  List.forall_mem_cons.mpr ⟨Or.inl rfl, h⟩

theorem isBody_indented {text : String} {lines : List String} (htext : IsLine text)
    (hlines : IsBody lines) : IsBody (indented text :: lines) :=
  List.forall_mem_cons.mpr ⟨Or.inr ⟨text, rfl, htext⟩, hlines⟩

theorem isBody_map {α : Type} {as : List α} {f : α → String}
    (h : ∀ a ∈ as, ∃ text, f a = indented text ∧ IsLine text) : IsBody (as.map f) := by
  intro line hline
  obtain ⟨a, ha, rfl⟩ := List.mem_map.mp hline
  exact Or.inr (h a ha)

/-- The arguments of the call that constructs a member. -/
def constructionArguments (construction : Construction) : String :=
  let parent :=
    if construction.needsParent then
      match construction.parent with
      | some parent => [outField parent]
      | none => ["out"]
    else []
  ", ".intercalate (parent ++ construction.arguments.toList)

/-- The arguments of the call that attaches something. -/
def layoutArguments (layout : LayoutCall) : String :=
  ", ".intercalate (layoutChild layout.child :: layout.extra.toList)

theorem memberLine_toList (member : Member) :
    (indented (member.name ++ " " ++ member.typeName)).toList =
      '\t' :: (member.name.toList ++ ' ' :: member.typeName.toList) := by
  simp [indented]

theorem constructionLine_toList (construction : Construction) :
    (constructionLine construction).toList =
      "\tout.".toList ++ (construction.field.toList ++ ' ' :: ("= ".toList ++
        (construction.constructor.toList ++
          '(' :: ((constructionArguments construction).toList ++ [')'])))) := by
  have hline : constructionLine construction = indented (outField construction.field ++ " = " ++
      (construction.constructor ++ "(" ++ constructionArguments construction ++ ")")) := rfl
  simp [hline, indented, outField]

theorem bindingLine_toList (binding : EventBinding) :
    (bindingLine binding).toList =
      "\twx.Bind(out, wx.".toList ++ (binding.event.toList ++ ',' :: (" handler.".toList ++
        (binding.handler.toList ++ ',' :: (" out.".toList ++
          (binding.field.toList ++ ".GetId())".toList))))) := by
  simp [bindingLine, indented, outField, call]

theorem layoutLine_toList (layout : LayoutCall) :
    (layoutLine layout).toList =
      "\tout.".toList ++ (layout.parent.toList ++ '.' :: (layout.method.toList ++
        '(' :: ((layoutArguments layout).toList ++ [')']))) := by
  simp [layoutLine, layoutArguments, indented, outField, call]

theorem propertyLine_toList (property : SetterCall) :
    (propertyLine property).toList = "\twindow.".toList ++
      match property.field with
      | some field => field.toList ++ '.' :: (property.setter.toList ++
          '(' :: ((property.value.getD "").toList ++ [')']))
      | none => property.setter.toList ++ '(' :: ((property.value.getD "").toList ++ [')']) := by
  cases h : property.field <;> simp [propertyLine, h, indented, call]

/-! ### Lines read back -/

end Go

/-! ### Well-shaped plans -/

/-- All names in the plan are names of Go, no expression breaks a line, and nothing is attached to
the window itself. -/
structure WindowPlan.IsWellShaped (plan : WindowPlan) : Prop where
  name : IsIdentifier plan.name
  baseType : IsDotted plan.baseType
  constructor : IsDotted plan.constructor
  selfField : IsIdentifier plan.selfField
  sizerField : ∀ sizer ∈ plan.sizerField, IsIdentifier sizer
  members : ∀ member ∈ plan.members, IsIdentifier member.name ∧ IsDotted member.typeName
  constructions : ∀ construction ∈ plan.constructions,
    (IsIdentifier construction.field ∧ IsDotted construction.constructor) ∧
    IsLine (constructionArguments construction)
  bindings : ∀ binding ∈ plan.bindings,
    (IsIdentifier binding.event ∧ IsIdentifier binding.handler) ∧ IsIdentifier binding.field
  layout : ∀ layout ∈ plan.layout, (IsIdentifier layout.parent ∧ IsIdentifier layout.method) ∧
    IsLine (layoutArguments layout) ∧ layout.parent ≠ plan.selfField
  properties : ∀ property ∈ plan.properties,
    ((∀ field ∈ property.field, IsIdentifier field) ∧ IsIdentifier property.setter) ∧
    IsLine (property.value.getD "")

namespace Go

/-- The construction of the window itself. -/
def windowConstruction (plan : WindowPlan) : Construction :=
  ⟨plan.selfField, plan.constructor, some ("wx.NullWindow, wx.ID_ANY, " ++ string plan.title),
    false, none⟩

/-- The call that makes a container the sizer of the window. -/
def setSizer (plan : WindowPlan) (sizer : String) : LayoutCall :=
  ⟨plan.selfField, .member sizer, none, "SetSizer"⟩

theorem constructionArguments_window (plan : WindowPlan) :
    constructionArguments (windowConstruction plan) =
      "wx.NullWindow, wx.ID_ANY, " ++ string plan.title := by
  simp [constructionArguments, windowConstruction]

theorem isIdentifier_setSizer : IsIdentifier "SetSizer" := by decide +kernel

/-! ### The bodies of declarations -/

/-- What stands in the struct of a window. -/
def structBody (plan : WindowPlan) : List String :=
  indented plan.baseType ::
    plan.members.map fun member => indented (member.name ++ " " ++ member.typeName)

/-- What stands in the interface of a window. -/
def interfaceBody (plan : WindowPlan) : List String :=
  plan.handlers.map fun handler => indented (handler ++ "(wx.Event)")

/-- What stands in the function that builds a window. The window is the first construction. -/
def initBody (plan : WindowPlan) : List String :=
  indented ("out := &" ++ plan.name ++ "\x7b\x7d") ::
    (windowConstruction plan :: plan.constructions).map constructionLine ++
    "" :: indented "out.setProperties()" :: indented "out.doLayout()" ::
      ((if plan.bindings.isEmpty then [] else "" :: plan.bindings.map bindingLine) ++
        ["", indented "return out"])

/-- What stands in the method that lays a window out. Setting the sizer is the last layout call. -/
def layoutBody (plan : WindowPlan) : List String :=
  (plan.layout ++ plan.sizerField.toList.map (setSizer plan)).map layoutLine ++
    [indented (outField plan.selfField ++ ".Layout()")]

/-- What stands in the method that sets the properties of a window. -/
def propertyBody (plan : WindowPlan) : List String :=
  indented (call "window.SetTitle" [string plan.title]) :: plan.properties.map propertyLine

theorem initLines_eq (plan : WindowPlan) : initLines plan =
    block ("func init" ++ plan.name ++ "(handler " ++ plan.name ++ "Events) *" ++ plan.name)
      (initBody plan) := by
  have hwindow : constructionLine (windowConstruction plan) =
      indented (outField plan.selfField ++ " = " ++
        call plan.constructor ["wx.NullWindow", "wx.ID_ANY", string plan.title]) := by
    rw [← String.toList_inj, constructionLine_toList, constructionArguments_window]
    simp [windowConstruction, indented, outField, call]
  rw [initBody, List.map_cons, hwindow]
  simp [initLines]

theorem layoutLines_eq (plan : WindowPlan) : layoutLines plan =
    block ("func (out *" ++ plan.name ++ ") doLayout()") (layoutBody plan) := by
  have hsizer : ∀ sizer, layoutLine (setSizer plan sizer) =
      indented (call (outField plan.selfField ++ ".SetSizer") [outField sizer]) := by
    intro sizer
    rw [← String.toList_inj, layoutLine_toList]
    simp [setSizer, layoutArguments, layoutChild, indented, outField, call]
  rw [layoutBody, List.map_append, List.map_map]
  simp [layoutLines, Function.comp_def, hsizer]

theorem isLine_of_indented {text : String} (h : IsLine (indented text)) : IsLine text :=
  (isLine_append.mp h).2

theorem isLine_construction {construction : Construction}
    (hnames : IsIdentifier construction.field ∧ IsDotted construction.constructor)
    (harguments : IsLine (constructionArguments construction)) :
    ∃ text, constructionLine construction = indented text ∧ IsLine text := by
  refine ⟨_, rfl, isLine_of_indented ?_⟩
  change IsLine (constructionLine construction)
  have hfield := hnames.1.isLine
  have hconstructor := hnames.2.isLine
  simp_all [IsLine, constructionLine_toList]

theorem isLine_binding {binding : EventBinding}
    (hnames : IsIdentifier binding.event ∧ IsIdentifier binding.handler)
    (hfield : IsIdentifier binding.field) :
    ∃ text, bindingLine binding = indented text ∧ IsLine text := by
  refine ⟨_, rfl, isLine_of_indented ?_⟩
  change IsLine (bindingLine binding)
  have hevent := hnames.1.isLine
  have hhandler := hnames.2.isLine
  have hfield := hfield.isLine
  simp_all [IsLine, bindingLine_toList]

theorem isLine_layout {layout : LayoutCall}
    (hnames : IsIdentifier layout.parent ∧ IsIdentifier layout.method)
    (harguments : IsLine (layoutArguments layout)) :
    ∃ text, layoutLine layout = indented text ∧ IsLine text := by
  refine ⟨_, rfl, isLine_of_indented ?_⟩
  change IsLine (layoutLine layout)
  have hparent := hnames.1.isLine
  have hmethod := hnames.2.isLine
  simp_all [IsLine, layoutLine_toList]

theorem isLine_property {property : SetterCall}
    (hnames : (∀ field ∈ property.field, IsIdentifier field) ∧ IsIdentifier property.setter)
    (hvalue : IsLine (property.value.getD "")) :
    ∃ text, propertyLine property = indented text ∧ IsLine text := by
  refine ⟨_, rfl, isLine_of_indented ?_⟩
  change IsLine (propertyLine property)
  have hsetter := hnames.2.isLine
  have hfield : ∀ field ∈ property.field, IsLine field :=
    fun field hfield => (hnames.1 field hfield).isLine
  cases h : property.field <;> simp_all [IsLine, propertyLine_toList]

end Go

end GladeGo
