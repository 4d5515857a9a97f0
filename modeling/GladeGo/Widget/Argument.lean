import GladeGo.Log
import GladeGo.Widget.Fault

/-! # Arguments

The arguments of a generated call. Each slot is a fixed Go expression or a binding, which reads a
value from an element, converts it, and falls back on a default when the value is absent. -/

namespace GladeGo

/-- Where a binding reads its value. -/
inductive Source where
  /-- The text of a child element. -/
  | element (tag : String)
  | attribute (key : String)
  /-- The object that an item of a container holds. -/
  | child
  deriving Repr, DecidableEq

/-- The name of a source in diagnostics. -/
def Source.field : Source → String
  | .element tag => tag
  | .attribute key => "@" ++ key
  | .child => "child object"

/-- The element that arguments are read from, and the object it holds if it is an item. -/
structure Scope where
  node : Node
  child : Option Node

/-- The raw value that a source has in a scope. -/
def Source.raw? (source : Source) (scope : Scope) : Option RawValue :=
  match source with
  | .element tag => (scope.node.elementText? tag).map .text
  | .attribute key => (scope.node.attribute? key).map .text
  | .child => scope.child.map .node

/-- A value read from an element. -/
structure Binding where
  source : Source
  converter : Converter
  /-- The Go expression for an absent value. -/
  default : Option String
  deriving Repr, DecidableEq

/-- The expression if it is there and not empty. -/
def presentValue (node : Node) (field : String) (raw : Option String) (value : Option String) :
    Except ResolutionFault String :=
  match value with
  | none => .error (node.emptyValue field raw)
  | some value => if value = "" then .error (node.emptyValue field raw) else .ok value

/-- The Go expression of a binding in a scope. -/
def Binding.evaluate (binding : Binding) (scope : Scope) : Logged ResolutionFault String := do
  let field := binding.source.field
  match binding.source.raw? scope with
  | none => presentValue scope.node field none binding.default
  | some raw =>
    Logged.log .trace .binding ("converting " ++ field ++ " = " ++ Text.quoted raw.display)
    match binding.converter.convert raw with
    | .error fault => Logged.fail (scope.node.conversionFault field raw.display fault)
    | .ok value => presentValue scope.node field (some raw.display) value

/-- One argument of a generated call. -/
inductive Slot where
  | fixed (expression : String)
  | bound (binding : Binding)
  deriving Repr, DecidableEq

namespace Slot

/-- A slot bound to the text of a child element. -/
def ofElement (tag : String) (converter : Converter) (default : Option String) : Slot :=
  .bound ⟨.element tag, converter, default⟩

/-- A slot bound to an attribute. -/
def ofAttribute (key : String) (converter : Converter) : Slot :=
  .bound ⟨.attribute key, converter, none⟩

/-- A slot bound to the object that an item holds. -/
def ofChild (converter : Converter) : Slot := .bound ⟨.child, converter, none⟩

/-- The Go expression of a slot in a scope. -/
def evaluate (slot : Slot) (scope : Scope) : Logged ResolutionFault String :=
  match slot with
  | .fixed expression => pure expression
  | .bound binding => binding.evaluate scope

end Slot

/-- The argument list of a call; `none` if it has no slots. -/
def renderArguments (slots : List Slot) (scope : Scope) : Logged ResolutionFault (Option String) :=
  match slots with
  | [] => pure none
  | slots => do
    let arguments ← slots.mapM fun slot => slot.evaluate scope
    pure (some (", ".intercalate arguments))

/-- A setter that is called when an element with the given tag is present. -/
structure Property where
  tag : String
  setter : String
  converter : Converter
  deriving Repr, DecidableEq

/-- The Go expression for the value `raw` of a property that is present on `node`. -/
def convertProperty (node : Node) (tag raw : String) (converter : Converter) :
    Except ResolutionFault String :=
  match converter.convert (.text raw) with
  | .error fault => .error (node.conversionFault tag raw fault)
  | .ok value => presentValue node tag (some raw) value

end GladeGo
