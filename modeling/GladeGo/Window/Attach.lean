import GladeGo.Text.Contains
import GladeGo.Widget.Registry
import GladeGo.Window.Plan

/-! # Attaching objects

How the objects inside a container are attached to it. Each of them makes one call, except that
objects to be passed over make none; a spacer is a number and everything else a member of the
window, which is to be visited in its turn. -/

namespace GladeGo

/-- An object that waits to be visited. -/
structure Pending where
  node : Node
  /-- The field of the container, or of the window, that holds the object. -/
  parentField : String
  /-- The field of the window that the object is constructed in; `none` is the window itself. -/
  parentObject : Option String
  deriving Repr, DecidableEq

/-- A call that attaches an object, and the object if it is to be visited. -/
structure Attachment where
  call : LayoutCall
  pending : Option Pending
  deriving Repr, DecidableEq

/-- The name of the member that an object becomes. -/
def Node.memberName (node : Node) : Except ResolutionFault String :=
  match node.attribute? "name" with
  | none => .error (node.emptyValue "@name" none)
  | some name => if name = "" then .error (node.emptyValue "@name" (some name)) else .ok name

/-- The integer in the child element `tag`; `default` stands for an absent one. -/
def Node.integerField (node : Node) (tag : String) (default : Option Int) :
    Except ResolutionFault Int :=
  match node.elementText? tag, default with
  | some raw, _ =>
    match Go.readInteger raw.toList with
    | .ok i => .ok i
    | .error fault => .error (node.conversionFault tag raw (.literal (.notInteger fault)))
  | none, some i => .ok i
  | none, none => .error (node.emptyValue tag none)

/-- A container of a window, as the walk has come to it. -/
structure Container where
  registry : Registry
  node : Node
  /-- The name of its member. -/
  name : String
  /-- How its class attaches objects. -/
  rules : ContainerClass
  /-- The field of the window that its objects are constructed in. -/
  childParent : Option String

namespace Container

/-- A fault of the container. -/
def fault (container : Container) (fault : ContainerFault) : ResolutionFault :=
  .container container.node.className container.name fault

/-- Whether a sizer lays out its objects in a row: its axis names the horizontal direction. -/
def isHorizontal (container : Container) (orientation : String) : Bool :=
  match container.node.elementText? orientation <|> container.node.attribute? orientation with
  | some axis => Text.contains axis "HORIZONTAL"
  | none => false

/-- The call for a spacer: in an item with a proportion it stretches, and otherwise it has its own
extent along the axis of the sizer. -/
def spacerCall (container : Container) (item spacer : Node) : Except ResolutionFault LayoutCall :=
  match container.rules.kind with
  | .window => .error (container.fault .spacerOutsideSizer)
  | .sizer orientation => do
    let proportion ← item.integerField "option" (some 0)
    if proportion ≠ 0 then
      .ok ⟨container.name, .literal (Text.showInt proportion), none, "AddStretchSpacer"⟩
    else
      let extent ← spacer.integerField
        (if container.isHorizontal orientation then "width" else "height") none
      .ok ⟨container.name, .literal (Text.showInt extent), none, "AddSpacer"⟩

/-- The elements that hold the container's objects: the container itself or its items, placeholders
left out. -/
def holders (container : Container) : Except ResolutionFault (List Node) :=
  match container.rules.items with
  | none => .ok [container.node]
  | some itemClass =>
    let items := container.node.objects.filter fun item =>
      some item.className != itemClass.placeholder
    match items.find? fun item => item.className != itemClass.holder with
    | some item => .error (container.fault (.wrongItem itemClass.holder item.className))
    | none => .ok items

/-- The call for one object of an item; `none` for an object that is passed over. -/
def attachObject (container : Container) (item object : Node) :
    Logged ResolutionFault (Option Attachment) :=
  let base := object.base
  if container.registry.isSpacer base then do
    let call ← container.spacerCall item object
    Logged.log .debug .resolution (container.name ++ "." ++ call.method ++ " spacer")
    pure (some ⟨call, none⟩)
  else if container.registry.isIgnored base then pure none
  else do
    let name ← object.memberName
    let extra ← renderArguments container.rules.itemArguments ⟨item, some object⟩
    let method := container.rules.addMethod
    Logged.log .debug .resolution (container.name ++ "." ++ method ++ "(" ++ name ++ ")")
    pure (some ⟨⟨container.name, .member name, extra, method⟩,
      some ⟨object, container.name, container.childParent⟩⟩)

/-- The calls for the objects of one item, of which there must be as many as the class allows. -/
def attachItem (container : Container) (item : Node) : Logged ResolutionFault (List Attachment) :=
  let objects := item.objects
  let cardinality := container.rules.cardinality
  if cardinality.admits objects.length then do
    let attached ← objects.mapM fun object => container.attachObject item object
    pure (attached.filterMap id)
  else
    Logged.fail (container.fault (.wrongCount item.className objects.length cardinality))

/-- The calls for all objects of the container, in document order. -/
def attachAll (container : Container) : Logged ResolutionFault (List Attachment) := do
  let holders ← container.holders
  let attached ← holders.mapM container.attachItem
  pure attached.flatten

end Container

end GladeGo
