import GladeGo.Go.Literal
import GladeGo.Window.Plan

/-! # Go code for a window

The declarations that a window plan makes, each a list of lines: the struct with its members, the
interface of its event handlers, the function that builds it, and the methods that lay it out and
set its properties. -/

namespace GladeGo.Go

/-- A call with its arguments. -/
def call (function : String) (arguments : List String) : String :=
  function ++ "(" ++ ", ".intercalate arguments ++ ")"

/-- One line inside a block. -/
def indented (line : String) : String := "\t" ++ line

/-- A block: the line that opens it, what stands in it, and the brace that closes it. -/
def block (opening : String) (lines : List String) : List String :=
  (opening ++ " \x7b") :: lines ++ ["\x7d"]

/-- The struct of a window: the embedded window and one field for each member. -/
def structLines (plan : WindowPlan) : List String :=
  block ("type " ++ plan.name ++ " struct")
    (indented plan.baseType ::
      plan.members.map fun member => indented (member.name ++ " " ++ member.typeName))

/-- The interface with one method for each handler. -/
def interfaceLines (plan : WindowPlan) : List String :=
  block ("type " ++ plan.name ++ "Events interface")
    (plan.handlers.map fun handler => indented (handler ++ "(wx.Event)"))

/-- A field of the window under construction. -/
def outField (field : String) : String := "out." ++ field

/-- The assignment that constructs a member. -/
def constructionLine (construction : Construction) : String :=
  let parent :=
    if construction.needsParent then
      match construction.parent with
      | some parent => [outField parent]
      | none => ["out"]
    else []
  indented (outField construction.field ++ " = " ++
    call construction.constructor (parent ++ construction.arguments.toList))

/-- The statement that binds an event to its handler. -/
def bindingLine (binding : EventBinding) : String :=
  indented (call "wx.Bind" ["out", "wx." ++ binding.event, "handler." ++ binding.handler,
    outField binding.field ++ ".GetId()"])

/-- The function that builds a window and binds its events. -/
def initLines (plan : WindowPlan) : List String :=
  let window := outField plan.selfField ++ " = " ++
    call plan.constructor ["wx.NullWindow", "wx.ID_ANY", string plan.title]
  let bindings :=
    if plan.bindings.isEmpty then [] else "" :: plan.bindings.map bindingLine
  block ("func init" ++ plan.name ++ "(handler " ++ plan.name ++ "Events) *" ++ plan.name)
    ([indented ("out := &" ++ plan.name ++ "\x7b\x7d"), indented window] ++
      plan.constructions.map constructionLine ++
      ["", indented "out.setProperties()", indented "out.doLayout()"] ++ bindings ++
      ["", indented "return out"])

/-- The Go expression for what is attached to a container. -/
def layoutChild : LayoutChild → String
  | .member name => outField name
  | .literal expression => expression

/-- The statement that attaches something to a container. -/
def layoutLine (layout : LayoutCall) : String :=
  indented (call (outField layout.parent ++ "." ++ layout.method)
    (layoutChild layout.child :: layout.extra.toList))

/-- The method that attaches everything to its container, and the first container to the window. -/
def layoutLines (plan : WindowPlan) : List String :=
  let window := outField plan.selfField
  block ("func (out *" ++ plan.name ++ ") doLayout()")
    (plan.layout.map layoutLine ++
      (plan.sizerField.toList.map fun sizer =>
        indented (call (window ++ ".SetSizer") [outField sizer])) ++
      [indented (window ++ ".Layout()")])

/-- The statement that sets a property. -/
def propertyLine (property : SetterCall) : String :=
  let target :=
    match property.field with
    | some field => "window." ++ field
    | none => "window"
  indented (call (target ++ "." ++ property.setter) [property.value.getD ""])

/-- The method that sets the title and all properties. -/
def propertyLines (plan : WindowPlan) : List String :=
  block ("func (window *" ++ plan.name ++ ") setProperties()")
    (indented (call "window.SetTitle" [string plan.title]) :: plan.properties.map propertyLine)

/-- The declarations of a window, in the order in which they stand in the file. -/
def windowSections (plan : WindowPlan) : List (List String) :=
  [structLines plan, interfaceLines plan, initLines plan, layoutLines plan, propertyLines plan]

end GladeGo.Go
