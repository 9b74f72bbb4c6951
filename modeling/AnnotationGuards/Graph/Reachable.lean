/-! # Reachable nodes

The nodes of a graph that can be reached from given ones by following edges. A
graph is a function from each node to its successors. Only nodes of a finite
list have successors, so the search is given a bound: the number of edges that
it may have to follow.
-/

namespace AnnotationGuards.Graph

variable {α : Type u} [DecidableEq α]

/-- Works through the nodes still to visit, keeping those already seen. -/
def explore (next : α → List α) : Nat → List α → List α → List α
  | 0, _, seen => seen
  | _ + 1, [], seen => seen
  | fuel + 1, node :: pending, seen =>
    -- A node that was seen before has left its successors on the work list already.
    if node ∈ seen then explore next fuel pending seen
    else explore next fuel (next node ++ pending) (node :: seen)

/-- How many edges leave the nodes of a list. -/
def edgeCount (next : α → List α) : List α → Nat
  | [] => 0
  | node :: rest => (next node).length + edgeCount next rest

/-- The nodes that can be reached from `starts` in zero or more steps, where only
nodes of the list `nodes` have successors. Each step of the search takes one node
off its work list, and at most the starts and the ends of all edges get there. -/
def reachable (next : α → List α) (nodes starts : List α) : List α :=
  explore next (starts.length + edgeCount next nodes + 1) starts []

end AnnotationGuards.Graph
