import GladeGo.Proofs.Json.Reader
import GladeGo.Window.Dump

/-! # Shown plans read back

What is shown of plans is read as a JSON value that holds each entry of each plan under its key, and
the plans are found in it again (`plansOf?_tree`). The texts in the plans do not change the form of
that value (`shape_tree`). So plans that are shown alike are the same plans, whatever characters
stand in them (`dumpPlans_lossless`). -/

namespace GladeGo

open Json (Tree optionalString tree)

namespace Json

/-! ### What a value holds -/

namespace Tree

variable {α : Type}

/-- What is found in the member of an object with the given key. -/
def field? (key : String) (find : Tree → Option α) : Tree → Option α
  | object members => (members.lookup key).bind find
  | _ => none

/-- The text that a value is. -/
def text? : Tree → Option String
  | string value => some value
  | _ => none

/-- The text that a value is, or that there is none. -/
def optionalText? : Tree → Option (Option String)
  | null => some none
  | string value => some (some value)
  | _ => none

/-- The truth value that a value is. -/
def truth? : Tree → Option Bool
  | bool value => some value
  | _ => none

/-- What is found in the items of an array, each of them. -/
def list? (find : Tree → Option α) : Tree → Option (List α)
  | array items => items.mapM find
  | _ => none

mutual

/-- The form of a value: what is left of it without what its texts say. Keys stay. -/
def shape : Tree → Tree
  | null => null
  | bool value => bool value
  | number digits => number digits
  | string _ => string ""
  | array items => array (shapes items)
  | object members => object (memberShapes members)

/-- The forms of the items of an array. -/
def shapes : List Tree → List Tree
  | [] => []
  | item :: items => item.shape :: shapes items

/-- The forms of the members of an object. -/
def memberShapes : List (String × Tree) → List (String × Tree)
  | [] => []
  | (key, value) :: members => (key, value.shape) :: memberShapes members

end

end Tree

theorem tree_object (members : List (String × Json)) :
    (Json.object members).tree = .object (memberTrees members) := rfl

theorem optionalText?_optionalString (text : Option String) :
    (optionalString text).tree.optionalText? = some text := by cases text <;> rfl

/-- The form of an optional text. -/
def optionalShape (text : Option String) : Option String := text.map fun _ => ""

theorem shape_optionalString (text : Option String) :
    (optionalString text).tree.shape = (optionalString (optionalShape text)).tree := by
  cases text <;> rfl

section Array
variable {α : Type} {json : α → Json}

theorem list?_array {find : Tree → Option α} (h : ∀ a, find (json a).tree = some a)
    (as : List α) : (Json.array (as.map json)).tree.list? find = some as := by
  rw [tree, Tree.list?]
  induction as with
  | nil => rfl
  | cons a as ih => rw [List.map_cons, trees, List.mapM_cons, h, ih]; rfl

theorem shape_array {shape : α → α} (h : ∀ a, (json a).tree.shape = (json (shape a)).tree)
    (as : List α) :
    (Json.array (as.map json)).tree.shape = (Json.array ((as.map shape).map json)).tree := by
  rw [tree, tree, Tree.shape, Tree.array.injEq]
  induction as with
  | nil => rfl
  | cons a as ih =>
    rw [List.map_cons, List.map_cons, List.map_cons, trees, trees, Tree.shapes, h, ih]

end Array

end Json

open Json (list?_array memberTrees optionalShape optionalText?_optionalString shape_array
  shape_optionalString tree_object)

/-! ### Entries -/

/-- The member that a value holds. -/
def Member.of? (value : Tree) : Option Member := do
  let name ← value.field? "name" Tree.text?
  let typeName ← value.field? "type_name" Tree.text?
  some ⟨name, typeName⟩

/-- The form of a member. -/
def Member.shape (_ : Member) : Member := ⟨"", ""⟩

theorem Member.of?_tree (member : Member) : Member.of? member.json.tree = some member := rfl

theorem Member.shape_tree (member : Member) :
    member.json.tree.shape = member.shape.json.tree := rfl

/-- The construction that a value holds. -/
def Construction.of? (value : Tree) : Option Construction := do
  let field ← value.field? "field" Tree.text?
  let constructor ← value.field? "constructor" Tree.text?
  let arguments ← value.field? "args" Tree.optionalText?
  let needsParent ← value.field? "needs_parent" Tree.truth?
  let parent ← value.field? "parent" Tree.optionalText?
  some ⟨field, constructor, arguments, needsParent, parent⟩

/-- The form of a construction. -/
def Construction.shape (construction : Construction) : Construction :=
  ⟨"", "", optionalShape construction.arguments, construction.needsParent,
    optionalShape construction.parent⟩

theorem Construction.of?_tree (construction : Construction) :
    Construction.of? construction.json.tree = some construction := by
  have harguments : construction.json.tree.field? "args" Tree.optionalText? =
      some construction.arguments := optionalText?_optionalString _
  have hparent : construction.json.tree.field? "parent" Tree.optionalText? =
      some construction.parent := optionalText?_optionalString _
  rw [Construction.of?, harguments, hparent]
  rfl

theorem Construction.shape_tree (construction : Construction) :
    construction.json.tree.shape = construction.shape.json.tree := by
  simp only [Construction.json, tree_object, memberTrees, Tree.shape, Tree.memberShapes,
    shape_optionalString]
  rfl

/-- The call of a setter that a value holds. -/
def SetterCall.of? (value : Tree) : Option SetterCall := do
  let field ← value.field? "field" Tree.optionalText?
  let setter ← value.field? "setter" Tree.text?
  let argument ← value.field? "value" Tree.optionalText?
  some ⟨field, setter, argument⟩

/-- The form of a call of a setter. -/
def SetterCall.shape (call : SetterCall) : SetterCall :=
  ⟨optionalShape call.field, "", optionalShape call.value⟩

theorem SetterCall.of?_tree (call : SetterCall) : SetterCall.of? call.json.tree = some call := by
  have hfield : call.json.tree.field? "field" Tree.optionalText? = some call.field :=
    optionalText?_optionalString _
  have hvalue : call.json.tree.field? "value" Tree.optionalText? = some call.value :=
    optionalText?_optionalString _
  rw [SetterCall.of?, hfield, hvalue]
  rfl

theorem SetterCall.shape_tree (call : SetterCall) :
    call.json.tree.shape = call.shape.json.tree := by
  simp only [SetterCall.json, tree_object, memberTrees, Tree.shape, Tree.memberShapes,
    shape_optionalString]
  rfl

/-- What is attached to a container, as a value holds it. The key tells what the text is. -/
def LayoutChild.of? : Tree → Option LayoutChild
  | .object [("Member", .string name)] => some (.member name)
  | .object [("Literal", .string expression)] => some (.literal expression)
  | _ => none

/-- The form of what is attached to a container. -/
def LayoutChild.shape : LayoutChild → LayoutChild
  | .member _ => .member ""
  | .literal _ => .literal ""

theorem LayoutChild.of?_tree (child : LayoutChild) :
    LayoutChild.of? child.json.tree = some child := by cases child <;> rfl

theorem LayoutChild.shape_tree (child : LayoutChild) :
    child.json.tree.shape = child.shape.json.tree := by cases child <;> rfl

/-- The layout call that a value holds. -/
def LayoutCall.of? (value : Tree) : Option LayoutCall := do
  let parent ← value.field? "parent" Tree.text?
  let child ← value.field? "child" LayoutChild.of?
  let extra ← value.field? "extra" Tree.optionalText?
  let method ← value.field? "method" Tree.text?
  some ⟨parent, child, extra, method⟩

/-- The form of a layout call. -/
def LayoutCall.shape (call : LayoutCall) : LayoutCall :=
  ⟨"", call.child.shape, optionalShape call.extra, ""⟩

theorem LayoutCall.of?_tree (call : LayoutCall) : LayoutCall.of? call.json.tree = some call := by
  have hchild : call.json.tree.field? "child" LayoutChild.of? = some call.child :=
    call.child.of?_tree
  have hextra : call.json.tree.field? "extra" Tree.optionalText? = some call.extra :=
    optionalText?_optionalString _
  rw [LayoutCall.of?, hchild, hextra]
  rfl

theorem LayoutCall.shape_tree (call : LayoutCall) :
    call.json.tree.shape = call.shape.json.tree := by
  simp only [LayoutCall.json, tree_object, memberTrees, Tree.shape, Tree.memberShapes,
    shape_optionalString, LayoutChild.shape_tree]
  rfl

/-- The binding that a value holds. -/
def EventBinding.of? (value : Tree) : Option EventBinding := do
  let handler ← value.field? "handler" Tree.text?
  let event ← value.field? "event" Tree.text?
  let field ← value.field? "field" Tree.text?
  some ⟨handler, event, field⟩

/-- The form of a binding. -/
def EventBinding.shape (_ : EventBinding) : EventBinding := ⟨"", "", ""⟩

theorem EventBinding.of?_tree (binding : EventBinding) :
    EventBinding.of? binding.json.tree = some binding := rfl

theorem EventBinding.shape_tree (binding : EventBinding) :
    binding.json.tree.shape = binding.shape.json.tree := rfl

/-! ### Plans -/

namespace WindowPlan

/-- The plan that a value holds. -/
def of? (value : Tree) : Option WindowPlan := do
  let name ← value.field? "name" Tree.text?
  let baseType ← value.field? "base_type" Tree.text?
  let constructor ← value.field? "constructor" Tree.text?
  let selfField ← value.field? "self_field" Tree.text?
  let title ← value.field? "title" Tree.text?
  let sizerField ← value.field? "sizer_field" Tree.optionalText?
  let members ← value.field? "members" (Tree.list? Member.of?)
  let constructions ← value.field? "constructions" (Tree.list? Construction.of?)
  let properties ← value.field? "properties" (Tree.list? SetterCall.of?)
  let layout ← value.field? "layout" (Tree.list? LayoutCall.of?)
  let bindings ← value.field? "bindings" (Tree.list? EventBinding.of?)
  some ⟨name, baseType, constructor, selfField, title, sizerField, members, constructions,
    properties, layout, bindings⟩

/-- The form of a plan: how many entries of each kind there are, and which optional ones. -/
def shape (plan : WindowPlan) : WindowPlan where
  name := ""
  baseType := ""
  constructor := ""
  selfField := ""
  title := ""
  sizerField := optionalShape plan.sizerField
  members := plan.members.map Member.shape
  constructions := plan.constructions.map Construction.shape
  properties := plan.properties.map SetterCall.shape
  layout := plan.layout.map LayoutCall.shape
  bindings := plan.bindings.map EventBinding.shape

theorem of?_tree (plan : WindowPlan) : of? plan.json.tree = some plan := by
  have hsizer : plan.json.tree.field? "sizer_field" Tree.optionalText? = some plan.sizerField :=
    optionalText?_optionalString _
  have hmembers : plan.json.tree.field? "members" (Tree.list? Member.of?) = some plan.members :=
    list?_array Member.of?_tree _
  have hconstructions : plan.json.tree.field? "constructions" (Tree.list? Construction.of?) =
      some plan.constructions := list?_array Construction.of?_tree _
  have hproperties : plan.json.tree.field? "properties" (Tree.list? SetterCall.of?) =
      some plan.properties := list?_array SetterCall.of?_tree _
  have hlayout : plan.json.tree.field? "layout" (Tree.list? LayoutCall.of?) = some plan.layout :=
    list?_array LayoutCall.of?_tree _
  have hbindings : plan.json.tree.field? "bindings" (Tree.list? EventBinding.of?) =
      some plan.bindings := list?_array EventBinding.of?_tree _
  rw [of?, hsizer, hmembers, hconstructions, hproperties, hlayout, hbindings]
  rfl

theorem shape_tree (plan : WindowPlan) : plan.json.tree.shape = plan.shape.json.tree := by
  simp only [json, tree_object, memberTrees, Tree.shape, Tree.memberShapes, shape_optionalString,
    shape_array Member.shape_tree, shape_array Construction.shape_tree,
    shape_array SetterCall.shape_tree, shape_array LayoutCall.shape_tree,
    shape_array EventBinding.shape_tree]
  rfl

end WindowPlan

/-- The plans that a value holds. -/
def plansOf? (value : Tree) : Option (List WindowPlan) := value.list? WindowPlan.of?

/-- What is read of shown plans. -/
theorem read_dumpPlans (plans : List WindowPlan) :
    Json.read (dumpPlans plans ++ "\n") = some (Json.array (plans.map WindowPlan.json)).tree :=
  Json.read_text _

theorem plansOf?_tree (plans : List WindowPlan) :
    plansOf? (Json.array (plans.map WindowPlan.json)).tree = some plans :=
  list?_array WindowPlan.of?_tree plans

/-- **What is shown of plans is lossless.** It is a JSON text, and what a reader of JSON finds in it
are the plans. So different plans are shown differently; and the form of what is read is the same
exactly if the plans have one form, whatever the characters are in their texts. -/
theorem dumpPlans_lossless (plans others : List WindowPlan) :
    (Json.read (dumpPlans plans ++ "\n")).bind plansOf? = some plans ∧
    (dumpPlans plans = dumpPlans others ↔ plans = others) ∧
    ((Json.read (dumpPlans plans ++ "\n")).map Tree.shape =
        (Json.read (dumpPlans others ++ "\n")).map Tree.shape ↔
      plans.map WindowPlan.shape = others.map WindowPlan.shape) := by
  have hread : ∀ plans, (Json.read (dumpPlans plans ++ "\n")).bind plansOf? = some plans := by
    intro plans
    rw [read_dumpPlans, Option.bind_some, plansOf?_tree]
  have hshape : ∀ plans, (Json.read (dumpPlans plans ++ "\n")).map Tree.shape =
      some (Json.array ((plans.map WindowPlan.shape).map WindowPlan.json)).tree := by
    intro plans
    rw [read_dumpPlans, Option.map_some, shape_array WindowPlan.shape_tree]
  refine ⟨hread plans, ⟨fun h => ?_, fun h => h ▸ rfl⟩, ?_⟩
  · exact Option.some.inj (by rw [← hread plans, h, hread])
  · rw [hshape, hshape, Option.some.injEq]
    refine ⟨fun h => ?_, fun h => h ▸ rfl⟩
    exact Option.some.inj (by rw [← plansOf?_tree, h, plansOf?_tree])

end GladeGo
