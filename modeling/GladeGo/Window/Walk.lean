import GladeGo.Window.Attach

/-! # Resolving windows

A window is resolved by a breadth-first walk over the objects in it. Each object becomes a member of
the window, with its construction, setters and event bindings; the objects in a container join the
end of the queue. So a member is constructed before the ones that stand in it. -/

namespace GladeGo

open Logged (log fail)

/-- The calls of the setters for those of `properties` that are present on `node`. -/
def setterCalls (field : Option String) (node : Node) (properties : List Property) :
    Except ResolutionFault (List SetterCall) := do
  let calls ← properties.mapM fun property =>
    match node.elementText? property.tag with
    | none => .ok none
    | some raw => do
      let value ← convertProperty node property.tag raw property.converter
      .ok (some ⟨field, property.setter, some value⟩)
  .ok (calls.filterMap id)

/-- The binding that a `handler` element of the object `node` makes. -/
def eventBinding (field : String) (node handler : Node) : Except ResolutionFault EventBinding :=
  let event := handler.attributeOrEmpty "event"
  let callback := Text.trim handler.text
  if event = "" || callback = "" then
    .error (.emptyValue handler.tagOrEmpty node.className
      (if event = "" then "@event" else "handler") (some (event ++ "=" ++ callback)))
  else .ok ⟨callback, event, field⟩

/-- The bindings of an object's events. -/
def eventBindings (field : String) (node : Node) : Except ResolutionFault (List EventBinding) :=
  (node.follow "events/handler").mapM (eventBinding field node)

/-- The calls that attach the objects of a widget, if it is a container. -/
def attachments (registry : Registry) (pending : Pending) (name : String)
    (widget : ResolvedWidget) : Logged ResolutionFault (List Attachment) :=
  match widget.container with
  | none => pure []
  | some container =>
    let childParent := if container.parentsChildren then some name else pending.parentObject
    Container.attachAll ⟨registry, pending.node, name, container, childParent⟩

/-- The plan with one more object: its member, construction, setters, bindings and attachments. The
first container becomes the window's sizer. -/
def WindowPlan.extend (plan : WindowPlan) (pending : Pending) (name : String)
    (widget : ResolvedWidget) (properties : List SetterCall) (bindings : List EventBinding)
    (attached : List Attachment) : WindowPlan :=
  { plan with
    sizerField := plan.sizerField <|> if widget.container.isSome then some name else none
    members := plan.members ++ [⟨name, widget.typeName⟩]
    constructions := plan.constructions ++
      [⟨name, widget.constructor, widget.arguments, widget.needsParent, pending.parentObject⟩]
    properties := plan.properties ++ properties
    layout := plan.layout ++ attached.map Attachment.call
    bindings := plan.bindings ++ bindings }

/-- Whether a name is taken in a window: by a member or by the window's own field. -/
def WindowPlan.isTaken (plan : WindowPlan) (name : String) : Bool :=
  name == plan.selfField || plan.members.any fun member => member.name == name

/-- Adds one object to the plan, unless it is passed over. Returns the objects found in it. -/
def visit (registry : Registry) (plan : WindowPlan) (pending : Pending) :
    Logged ResolutionFault (WindowPlan × List Pending) :=
  let node := pending.node
  let base := node.base
  if registry.isIgnored base then do
    log .debug .resolution ("skipping ignored " ++ base ++ " in " ++ pending.parentField)
    pure (plan, [])
  else
    match registry.descriptor? base with
    | none => fail (.unknownWidget base node.className (node.attributeOrEmpty "name"))
    | some descriptor => do
      let widget ← descriptor.resolve node
      let name ← node.memberName
      if plan.isTaken name then fail (.duplicateMember node.className name plan.name)
      else
        log .debug .resolution
          ("visiting " ++ name ++ " (" ++ base ++ ") in " ++ pending.parentField)
        let properties ← setterCalls (some name) node widget.properties
        let bindings ← eventBindings name node
        let attached ← attachments registry pending name widget
        pure (plan.extend pending name widget properties bindings attached,
          attached.filterMap Attachment.pending)

/-- Visits the objects in the queue and those found on the way, each at most once. `fresh` holds the
numbers of the nodes that have not been visited. -/
def walk (registry : Registry) (fresh : List Nat) (queue : List Pending) (plan : WindowPlan) :
    Logged ResolutionFault WindowPlan :=
  match queue with
  | [] => pure plan
  | pending :: queue =>
    if _hfresh : pending.node.number ∈ fresh then do
      let (plan, found) ← visit registry plan pending
      walk registry (fresh.erase pending.node.number) (queue ++ found) plan
    else
      fail (.container pending.node.className (pending.node.attributeOrEmpty "name") .reachedTwice)
termination_by fresh.length
decreasing_by
  rw [List.length_erase_of_mem _hfresh]
  have := List.length_pos_of_mem _hfresh
  omega

/-- The plan of a window before any object is added. -/
def startPlan (window : Node) (windowClass : WindowClass) (properties : List SetterCall) :
    WindowPlan where
  name := window.className
  baseType := windowClass.typeName
  constructor := windowClass.constructor
  selfField := windowClass.selfField
  title := (window.elementText? "title").getD ""
  sizerField := none
  members := []
  constructions := []
  properties
  layout := []
  bindings := []

/-- The objects directly in a window, which are constructed in the window itself. -/
def topObjects (window : Node) (windowClass : WindowClass) : List Pending :=
  window.objects.map fun object => ⟨object, windowClass.selfField, none⟩

/-- Resolves one window. -/
def resolveWindow (registry : Registry) (window : Node) : Logged ResolutionFault WindowPlan :=
  let base := window.base
  let className := window.className
  if className = "" then fail (window.emptyValue "@class" (window.attribute? "class"))
  else
    match registry.window? base with
    | none => fail (.unknownWidget base className (window.attributeOrEmpty "name"))
    | some windowClass => do
      log .info .resolution ("resolving window " ++ className ++ " (" ++ base ++ ")")
      let properties ← setterCalls none window windowClass.properties
      walk registry (List.range window.document.size) (topObjects window windowClass)
        (startPlan window windowClass properties)

/-- Resolves all windows of a document, in document order. -/
def resolveDocument (registry : Registry) (document : Document) :
    Logged ResolutionFault (List WindowPlan) :=
  match document.root.elementsTagged "application" with
  | [] => fail .noApplication
  | [application] => application.objects.mapM (resolveWindow registry)
  | _ => fail .manyApplications

end GladeGo
