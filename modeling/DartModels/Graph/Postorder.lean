namespace DartModels

/-- A directed graph, with the successors of each node in order. Successors need
    not be nodes. -/
structure Graph (κ : Type) where
  nodes : List κ
  next : κ → List κ

namespace Graph

variable {κ : Type} [DecidableEq κ]

/-- Extends a list of finished nodes by those that a node leads to and by the node
    itself, successors first. The nodes on the way to it are `path`; meeting one of
    them again is an error. The depth never exceeds the number of nodes. -/
def finish (graph : Graph κ) : (depth : Nat) → (path finished : List κ) → κ → Except κ (List κ)
  | 0, _, finished, _ => .ok finished
  | depth + 1, path, finished, node =>
    if node ∉ graph.nodes then .ok finished
    else if node ∈ path then .error node
    else if node ∈ finished then .ok finished
    else do
      let finished ← (graph.next node).foldlM (finish graph depth (node :: path)) finished
      .ok (finished ++ [node])

/-- All nodes, each behind the nodes that it leads to, or a node that leads back
    to itself. Where the order is free it is that of the nodes. -/
def postorder (graph : Graph κ) : Except κ (List κ) :=
  graph.nodes.foldlM (finish graph (graph.nodes.length + 1) []) []

end Graph
end DartModels
