import GladeGo.Document.Basic
import GladeGo.Text.Quoted

/-! # Nodes in diagnostics

How a diagnostic shows a node: an element as its opening tag, a text quoted. -/

namespace GladeGo.Node

open GladeGo.Text (quoted)

/-- A node as a diagnostic shows it. -/
def display (node : Node) : String :=
  match node.kind? with
  | some (.element tag attributes) =>
    "<" ++ tag ++
      String.join (attributes.map fun (key, value) => " " ++ key ++ "=" ++ quoted value) ++ ">"
  | some (.text content) => "Text(" ++ quoted content ++ ")"
  | _ => "Document"

end GladeGo.Node
