import GladeGo.Widget.Converter
import GladeGo.Widget.Object

/-! # Faults of resolution

Why the objects of a document cannot be resolved to widgets. Each fault names the element it is
about as far as the element says who it is. -/

namespace GladeGo

/-- How many objects each item of a container may hold. -/
inductive Cardinality where
  | exactlyOne
  | atMostOne
  | any
  deriving Repr, DecidableEq

/-- The wording of a cardinality. -/
def Cardinality.wording : Cardinality → String
  | .exactlyOne => "exactly one"
  | .atMostOne => "at most one"
  | .any => "any number"

/-- Whether `count` objects are as many as there may be. -/
def Cardinality.admits (cardinality : Cardinality) (count : Nat) : Bool :=
  match cardinality with
  | .exactlyOne => count == 1
  | .atMostOne => count ≤ 1
  | .any => true

/-- What is wrong with the objects in a container or the arguments of a custom widget. -/
inductive ContainerFault where
  /-- The placeholder for the parent stands behind the first argument. -/
  | misplacedParent (marker : String)
  | wrongItem (expected found : String)
  | wrongCount (item : String) (count : Nat) (expected : Cardinality)
  | spacerOutsideSizer
  /-- The walk comes to an object a second time. -/
  | reachedTwice
  deriving Repr, DecidableEq

/-- The wording of a container fault. -/
def ContainerFault.message : ContainerFault → String
  | .misplacedParent marker => "'" ++ marker ++ "' may only appear once, as the first argument"
  | .wrongItem expected found => "expected '" ++ expected ++ "' items, found '" ++ found ++ "'"
  | .wrongCount item count expected =>
    "'" ++ item ++ "' holds " ++ Text.showNat count ++ " objects, expected " ++ expected.wording
  | .spacerOutsideSizer => "spacers are only allowed inside sizers"
  | .reachedTwice => "object is reachable from more than one container"

/-- Why a document cannot be resolved. -/
inductive ResolutionFault where
  /-- No widget or window is registered under the object's base. -/
  | unknownWidget (base className name : String)
  /-- The value of a field has no conversion. -/
  | conversion (tag className field raw : String) (fault : ConversionFault)
  /-- A value that is needed is absent or empty. -/
  | emptyValue (tag className field : String) (raw : Option String)
  | container (className name : String) (fault : ContainerFault)
  /-- Two objects of a window share a name, or one has the name of the window's own field. -/
  | duplicateMember (className name window : String)
  | noApplication
  | manyApplications
  deriving Repr, DecidableEq

/-- The wording of a resolution fault. -/
def ResolutionFault.message : ResolutionFault → String
  | .unknownWidget base className name =>
    "Unknown widget type '" ++ base ++ "' (class '" ++ className ++ "', name '" ++ name ++
      "'); add a descriptor for it to the registry"
  | .conversion tag className field raw fault =>
    "Cannot convert <" ++ tag ++ " class='" ++ className ++ "'> field '" ++ field ++ "' value " ++
      Text.quoted raw ++ ": " ++ fault.message
  | .emptyValue tag className field raw =>
    "Field '" ++ field ++ "' of <" ++ tag ++ " class='" ++ className ++
      "'> resolved to an empty value (raw value: " ++ Text.quotedOption raw ++ ")"
  | .container className name fault =>
    "Malformed container '" ++ name ++ "' (class '" ++ className ++ "'): " ++ fault.message
  | .duplicateMember className name window =>
    "Duplicate member '" ++ name ++ "' (class '" ++ className ++ "') in window '" ++ window ++ "'"
  | .noApplication => "Invalid document structure: no <application> element"
  | .manyApplications => "Invalid document structure: more than one <application> element"

namespace Node

/-- The fault of a field of `node` whose value is absent or empty. -/
def emptyValue (node : Node) (field : String) (raw : Option String) : ResolutionFault :=
  .emptyValue node.tagOrEmpty node.className field raw

/-- The fault of a field of `node` whose value has no conversion. -/
def conversionFault (node : Node) (field raw : String) (fault : ConversionFault) :
    ResolutionFault :=
  .conversion node.tagOrEmpty node.className field raw fault

end Node

end GladeGo
