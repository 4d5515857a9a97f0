/-! # Window plans

What is to be generated for one window of a document: the members of its struct, the constructor
calls that fill them, the setters to call, how objects are attached to their containers, and which
events call which handlers. -/

namespace GladeGo

/-- A field of the window's struct. -/
structure Member where
  name : String
  typeName : String
  deriving Repr, DecidableEq

/-- The constructor call that fills a field. -/
structure Construction where
  field : String
  constructor : String
  /-- The arguments after the parent, if there are any. -/
  arguments : Option String
  /-- Whether the constructor takes the parent window. -/
  needsParent : Bool
  /-- The field of the parent; `none` is the window itself. -/
  parent : Option String
  deriving Repr, DecidableEq

/-- A call of a setter. -/
structure SetterCall where
  /-- The field whose setter is called; `none` is the window itself. -/
  field : Option String
  setter : String
  value : Option String
  deriving Repr, DecidableEq

/-- What is attached to a container. -/
inductive LayoutChild where
  | member (name : String)
  | literal (expression : String)
  deriving Repr, DecidableEq

/-- A call that attaches something to a container. -/
structure LayoutCall where
  parent : String
  child : LayoutChild
  /-- Further arguments. -/
  extra : Option String
  method : String
  deriving Repr, DecidableEq

/-- An event of a field, and the handler that it calls. -/
structure EventBinding where
  handler : String
  event : String
  field : String
  deriving Repr, DecidableEq

/-- What is to be generated for one window. -/
structure WindowPlan where
  name : String
  baseType : String
  constructor : String
  /-- The embedded field that holds the window itself. -/
  selfField : String
  title : String
  /-- The field of the container that the window installs as its sizer. -/
  sizerField : Option String
  members : List Member
  constructions : List Construction
  properties : List SetterCall
  layout : List LayoutCall
  bindings : List EventBinding
  deriving Repr, DecidableEq

namespace WindowPlan

/-- The member with the given name. -/
def member? (plan : WindowPlan) (name : String) : Option Member :=
  plan.members.find? fun member => member.name == name

/-- The handlers that events call, each once, in the order in which they are first bound. -/
def handlers (plan : WindowPlan) : List String := (plan.bindings.map EventBinding.handler).eraseDups

end WindowPlan

end GladeGo
