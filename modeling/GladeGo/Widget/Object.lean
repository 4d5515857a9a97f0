import GladeGo.Document.Basic

/-! # Objects

The windows and widgets of a wxGlade document are its `object` elements. An object says its base, by
which its class is found, and the name and class that it has in the program. -/

namespace GladeGo.Node

/-- The tag of an element, or nothing for another node. -/
def tagOrEmpty (node : Node) : String := node.tag?.getD ""

/-- An attribute, with an absent one read as empty. -/
def attributeOrEmpty (node : Node) (key : String) : String := (node.attribute? key).getD ""

/-- The class that an object claims to have. -/
def className (node : Node) : String := node.attributeOrEmpty "class"

/-- The base by which an object's widget is found. -/
def base (node : Node) : String := node.attributeOrEmpty "base"

/-- The objects directly inside a node. -/
def objects (node : Node) : List Node := node.elementsTagged "object"

end GladeGo.Node
