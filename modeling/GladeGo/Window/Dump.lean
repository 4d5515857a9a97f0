import GladeGo.Json.Value
import GladeGo.Window.Plan

/-! # Window plans as JSON

The form in which plans are shown to other programs. -/

namespace GladeGo

open Json (optionalString)

/-- A member as JSON. -/
def Member.json (member : Member) : Json :=
  .object [("name", .string member.name), ("type_name", .string member.typeName)]

/-- A construction as JSON. -/
def Construction.json (construction : Construction) : Json :=
  .object [
    ("field", .string construction.field),
    ("constructor", .string construction.constructor),
    ("args", optionalString construction.arguments),
    ("needs_parent", .bool construction.needsParent),
    ("parent", optionalString construction.parent)]

/-- A call of a setter as JSON. -/
def SetterCall.json (call : SetterCall) : Json :=
  .object [
    ("field", optionalString call.field),
    ("setter", .string call.setter),
    ("value", optionalString call.value)]

/-- What is attached to a container as JSON. -/
def LayoutChild.json : LayoutChild → Json
  | .member name => .object [("Member", .string name)]
  | .literal expression => .object [("Literal", .string expression)]

/-- A call that attaches something as JSON. -/
def LayoutCall.json (call : LayoutCall) : Json :=
  .object [
    ("parent", .string call.parent),
    ("child", call.child.json),
    ("extra", optionalString call.extra),
    ("method", .string call.method)]

/-- An event binding as JSON. -/
def EventBinding.json (binding : EventBinding) : Json :=
  .object [
    ("handler", .string binding.handler),
    ("event", .string binding.event),
    ("field", .string binding.field)]

/-- A window plan as JSON. -/
def WindowPlan.json (plan : WindowPlan) : Json :=
  .object [
    ("name", .string plan.name),
    ("base_type", .string plan.baseType),
    ("constructor", .string plan.constructor),
    ("self_field", .string plan.selfField),
    ("title", .string plan.title),
    ("sizer_field", optionalString plan.sizerField),
    ("members", .array (plan.members.map Member.json)),
    ("constructions", .array (plan.constructions.map Construction.json)),
    ("properties", .array (plan.properties.map SetterCall.json)),
    ("layout", .array (plan.layout.map LayoutCall.json)),
    ("bindings", .array (plan.bindings.map EventBinding.json))]

/-- The text that shows a list of plans. -/
def dumpPlans (plans : List WindowPlan) : String := (Json.array (plans.map WindowPlan.json)).text

end GladeGo
