namespace DartModels.Graph

variable {κ ε : Type} [DecidableEq κ]

/-- Extends a list of reached nodes by a node and by all that it leads to, each
    node before its successors. A step to a successor may fail. The depth never
    exceeds the number of nodes. -/
def reach (nodes : List κ) (next : κ → List (Except ε κ)) :
    (depth : Nat) → (reached : List κ) → κ → Except ε (List κ)
  | 0, reached, _ => .ok reached
  | depth + 1, reached, node =>
    if node ∈ reached ∨ node ∉ nodes then .ok reached
    else
      (next node).foldlM
        (fun reached step => do reach nodes next depth reached (← step)) (reached ++ [node])

/-- The nodes that are reached from a list of starts, in the order in which they
    are first met. -/
def reachable (nodes : List κ) (next : κ → List (Except ε κ)) (starts : List κ) :
    Except ε (List κ) :=
  starts.foldlM (reach nodes next (nodes.length + 1)) []

end DartModels.Graph
