import GladeGo.Document.Display
import GladeGo.Document.Path
import GladeGo.Go.Literal

/-! # Converters

A converter turns a raw value of a document, a text or a node, into a Go expression. -/

namespace GladeGo

/-- A value as a document holds it. -/
inductive RawValue where
  | text (content : String)
  | node (node : Node)

/-- A raw value as a diagnostic shows it. -/
def RawValue.display : RawValue → String
  | .text content => content
  | .node subject => subject.display

/-- The kinds of conversion. -/
inductive Converter where
  | string
  | integer
  | constant
  | size
  | colour
  | negatedFlag
  /-- The label of the notebook tab whose `window` attribute names the node. -/
  | tabLabel
  deriving Repr, DecidableEq

/-- The name of a converter in diagnostics. -/
def Converter.name : Converter → String
  | .string => "GoString"
  | .integer => "Int"
  | .constant => "Constant"
  | .size => "Size"
  | .colour => "Colour"
  | .negatedFlag => "NegatedFlag"
  | .tabLabel => "TabLabel"

/-- Why a raw value has no conversion. -/
inductive ConversionFault where
  | literal (fault : Go.LiteralFault)
  | labelOfText
  | valueOfNode (converter : Converter)
  deriving Repr, DecidableEq

/-- The wording of a conversion fault. -/
def ConversionFault.message : ConversionFault → String
  | .literal fault => fault.message
  | .labelOfText => "tab label lookup needs a document node"
  | .valueOfNode converter => converter.name ++ " converts text, not nodes"

/-- The label of a notebook page: the text of the first tab, among those of the element around the
page, whose `window` attribute is the page's name. -/
def Node.tabLabel (page : Node) : Option String := do
  let name ← page.attribute? "name"
  let tab ← (page.follow "../tabs/tab").find? fun tab => tab.attribute? "window" == some name
  some (Go.string tab.text)

/-- The conversion of a text. -/
def Converter.convertText (converter : Converter) (content : String) :
    Except ConversionFault String :=
  match converter with
  | .string => .ok (Go.string content)
  | .integer => (Go.integer content).mapError .literal
  | .constant => (Go.constant content).mapError .literal
  | .size => (Go.size content).mapError .literal
  | .colour => (Go.colour content).mapError .literal
  | .negatedFlag => (Go.negatedFlag content).mapError .literal
  | .tabLabel => .error .labelOfText

/-- The conversion of a raw value; `none` when there is nothing to find. -/
def Converter.convert (converter : Converter) : RawValue → Except ConversionFault (Option String)
  | .text content => (converter.convertText content).map some
  | .node subject =>
    match converter with
    | .tabLabel => .ok subject.tabLabel
    | converter => .error (.valueOfNode converter)

end GladeGo
