import GladeGo.Keyed
import GladeGo.Widget.Argument

/-! # Widget classes

How the widgets of one base are built: their Go type and constructor, the arguments of the
constructor, the setters for their properties and, for containers, how the objects inside are
attached. All of this is data, which `Descriptor.resolve` applies to one object of a document. -/

namespace GladeGo

/-- Why a class cannot be registered. -/
inductive RegistrationFault where
  | propertyTwice (tag base : String)
  | descriptorTwice (base : String)
  | windowTwice (base : String)
  deriving Repr, DecidableEq

/-- The wording of a registration fault. -/
def RegistrationFault.message : RegistrationFault → String
  | .propertyTwice tag base => "property '" ++ tag ++ "' registered twice on " ++ base
  | .descriptorTwice base => "descriptor for '" ++ base ++ "' registered twice"
  | .windowTwice base => "window class '" ++ base ++ "' registered twice"

/-- A class of plain widgets. -/
structure WidgetClass where
  /-- The name that a designer knows the class by. -/
  className : String
  /-- The base that objects of the class have. -/
  base : String
  /-- The Go type of a member. -/
  typeName : String
  constructor : String
  /-- The arguments of the constructor, after the parent. -/
  arguments : List Slot
  /-- Whether the constructor takes the parent window. -/
  needsParent : Bool
  properties : List Property
  deriving Repr, DecidableEq

/-- Adds the setter for a property, of which there is one for each tag. -/
def WidgetClass.addProperty (widget : WidgetClass) (property : Property) :
    Except RegistrationFault WidgetClass :=
  if widget.properties.any fun known => known.tag == property.tag then
    .error (.propertyTwice property.tag widget.base)
  else .ok { widget with properties := widget.properties ++ [property] }

/-- What kind of thing a container is. -/
inductive ContainerKind where
  /-- A layout manager; its axis is the value of the field `orientation`. -/
  | sizer (orientation : String)
  /-- A window with other widgets in it. -/
  | window
  deriving Repr, DecidableEq

/-- The elements between a container and the objects in it. -/
structure ItemClass where
  /-- The class of the elements that hold objects. -/
  holder : String
  /-- The class of placeholders, which are passed over. -/
  placeholder : Option String
  deriving Repr, DecidableEq

/-- A class of widgets that lay out or hold other widgets. -/
structure ContainerClass extends WidgetClass where
  kind : ContainerKind
  /-- The elements around each object; without them objects stand directly in the container. -/
  items : Option ItemClass
  /-- Further arguments of the call that attaches an object, read from its item. -/
  itemArguments : List Slot
  /-- The method that attaches an object. -/
  addMethod : String
  /-- Whether the objects are constructed with this container as their parent. -/
  parentsChildren : Bool
  cardinality : Cardinality
  deriving Repr, DecidableEq

/-- The class of widgets whose Go type an object names itself. -/
structure CustomClass where
  className : String
  base : String
  /-- The argument that stands for the parent, allowed in first place only. -/
  parentMarker : String
  /-- The arguments that stand for fixed Go expressions, with these. -/
  tokens : List (String × String)
  /-- The arguments of an object that lists none. -/
  defaultArguments : List String
  properties : List Property
  deriving Repr, DecidableEq

/-- What is registered under one base. -/
inductive Descriptor where
  | widget (widget : WidgetClass)
  | container (container : ContainerClass)
  | custom (custom : CustomClass)
  deriving Repr, DecidableEq

/-- The base that a descriptor is registered under. -/
def Descriptor.base : Descriptor → String
  | .widget w => w.base
  | .container c => c.base
  | .custom c => c.base

/-- The container class of a descriptor. -/
def Descriptor.container? : Descriptor → Option ContainerClass
  | .container c => some c
  | _ => none

/-- A class of top-level windows. -/
structure WindowClass where
  base : String
  typeName : String
  constructor : String
  /-- The name of the field that holds the window itself. -/
  selfField : String
  properties : List Property
  deriving Repr, DecidableEq

/-- What a descriptor makes of one object. -/
structure ResolvedWidget where
  typeName : String
  constructor : String
  needsParent : Bool
  /-- The arguments of the constructor after the parent, if there are any. -/
  arguments : Option String
  properties : List Property
  container : Option ContainerClass
  deriving Repr, DecidableEq

namespace CustomClass

/-- The arguments that an object lists, or the default ones if it has no list. -/
def listedArguments (custom : CustomClass) (node : Node) : List String :=
  if (node.elementsTagged "arguments").isEmpty then custom.defaultArguments
  else (node.follow "arguments/argument").map fun argument => Text.trim argument.text

/-- The Go expression for one argument: what a token stands for, or the argument itself. -/
def expression (custom : CustomClass) (argument : String) : String :=
  (custom.tokens.lookup argument).getD argument

/-- The Go expressions for `arguments`, none of which may be empty. `place` is the number of the
first one. -/
def expressions (custom : CustomClass) (node : Node) (place : Nat) :
    List String → Except ResolutionFault (List String)
  | [] => .ok []
  | argument :: arguments =>
    if argument = "" then
      .error (node.emptyValue ("argument " ++ Text.showNat place) (some argument))
    else do
      let rest ← custom.expressions node (place + 1) arguments
      .ok (custom.expression argument :: rest)

/-- The constructor of a type: `NewName` for `Name`, and `package.NewName` for `package.Name`. -/
def constructorOf (typeName : String) : String :=
  let reversed := typeName.toList.reverse
  let name := (reversed.takeWhile (· != '.')).reverse
  let qualifier := (reversed.dropWhile (· != '.')).reverse
  String.ofList (qualifier ++ "New".toList ++ name)

/-- Applies a custom class to one object. -/
def resolve (custom : CustomClass) (node : Node) : Except ResolutionFault ResolvedWidget := do
  let typeName := node.className
  if typeName = "" then .error (node.emptyValue "@class" none)
  else
    let listed := custom.listedArguments node
    let needsParent := listed.head? == some custom.parentMarker
    let arguments := if needsParent then listed.tail else listed
    if arguments.contains custom.parentMarker then
      .error (.container typeName (node.attributeOrEmpty "name")
        (.misplacedParent custom.parentMarker))
    else
      let expressions ← custom.expressions node 1 arguments
      .ok {
        typeName
        constructor := constructorOf typeName
        needsParent
        arguments := if expressions.isEmpty then none else some (", ".intercalate expressions)
        properties := custom.properties
        container := none }

end CustomClass

/-- Applies the class of a plain widget to one object. -/
def WidgetClass.resolve (widget : WidgetClass) (container : Option ContainerClass) (node : Node) :
    Logged ResolutionFault ResolvedWidget := do
  let arguments ← renderArguments widget.arguments ⟨node, none⟩
  pure {
    typeName := widget.typeName
    constructor := widget.constructor
    needsParent := widget.needsParent
    arguments
    properties := widget.properties
    container }

/-- Applies a descriptor to one object. -/
def Descriptor.resolve (descriptor : Descriptor) (node : Node) :
    Logged ResolutionFault ResolvedWidget :=
  match descriptor with
  | .widget w => w.resolve none node
  | .container c => c.toWidgetClass.resolve (some c) node
  | .custom c => liftM (c.resolve node)

end GladeGo
