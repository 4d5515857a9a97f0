import GladeGo.Document.Basic

/-! # Paths

A path such as `../tabs/tab` leads from one node to others. Each of its segments goes to the child
elements of a name, to the parent (`..`) or nowhere (`.`). -/

namespace GladeGo

/-- One segment of a path. -/
inductive PathStep where
  | stay
  | up
  | down (tag : String)
  deriving Repr, DecidableEq

/-- The step that a segment stands for; an empty segment stands for none. -/
def PathStep.ofSegment (segment : List Char) : Option PathStep :=
  match segment with
  | [] => none
  | ['.'] => some .stay
  | ['.', '.'] => some .up
  | _ => some (.down (String.ofList segment))

/-- The steps of a path. -/
def pathSteps (path : String) : List PathStep :=
  (path.toList.splitOn '/').filterMap PathStep.ofSegment

namespace Node

/-- The nodes that one step leads to from `nodes`. A parent comes once for each node that has it. -/
def step (nodes : List Node) : PathStep → List Node
  | .stay => nodes
  | .up => nodes.filterMap parent?
  | .down tag => nodes.flatMap fun node => node.elementsTagged tag

/-- The nodes that `path` leads to from `node`. -/
def follow (node : Node) (path : String) : List Node := (pathSteps path).foldl step [node]

end Node

end GladeGo
