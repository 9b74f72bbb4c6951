/-! # Walking for cycles

A depth-first walk that looks for a cycle among chosen nodes of a graph. The
walk keeps the path to the node where it stands, the set of the nodes on it, and
the set of those that it has finished with. A chosen node met again on the path
closes a cycle; a finished node is not entered again, since whatever could be
reached from it has been seen.

## Contents

- `Walk.visit`: the walk from one node, with its state before and after
- `findCycle`: the first cycle that a walk from a node finds
-/

namespace AnnotationGuards.Graph

/-- Where a walk stands. -/
structure Walk (α : Type u) where
  /-- The nodes from the start of the walk to the node where it stands. -/
  path : List α := []
  /-- The set of the nodes on the path. -/
  onPath : List α := []
  /-- The set of the nodes from which nothing is left to see. -/
  finished : List α := []

namespace Walk

variable {α : Type u} [DecidableEq α]

/-- The walk one step further, at `node`. -/
def enter (w : Walk α) (node : α) : Walk α :=
  { w with path := w.path ++ [node], onPath := w.onPath.insert node }

/-- The walk one step back, with `node` finished. -/
def leave (w : Walk α) (node : α) : Walk α where
  path := w.path.dropLast
  onPath := w.onPath.erase node
  finished := w.finished.insert node

/-- The cycle that an edge back to `node` closes: the path from that node on, and
the node once more. -/
def cycleAt (w : Walk α) (node : α) : List α :=
  w.path.drop ((w.path.idxOf? node).getD 0) ++ [node]

/-- Goes through the successors of a node, visiting the chosen ones that are not
finished, until a cycle is found. -/
def visitAll (chosen : α → Bool) (visit : Walk α → α → Option (List α) × Walk α) :
    Walk α → List α → Option (List α) × Walk α
  | w, [] => (none, w)
  | w, node :: rest =>
    if !chosen node || w.finished.contains node then visitAll chosen visit w rest
    -- A chosen node on the path is met again: the cycle is closed.
    else if node ∈ w.onPath then (some (w.cycleAt node), w)
    else
      match visit w node with
      | (some cycle, w') => (some cycle, w')
      | (none, w') => visitAll chosen visit w' rest

/-- Visits a node: enters it, goes through its successors and leaves it again,
unless a cycle is found on the way. -/
def visit (next : α → List α) (chosen : α → Bool) :
    Nat → Walk α → α → Option (List α) × Walk α
  | 0, w, _ => (none, w)
  | fuel + 1, w, node =>
    match visitAll chosen (visit next chosen fuel) (w.enter node) (next node) with
    | (some cycle, w') => (some cycle, w')
    | (none, w') => (none, w'.leave node)

end Walk

variable {α : Type u} [DecidableEq α]

/-- The first cycle of chosen nodes that a walk from `start` meets, with its first
node repeated at the end. The nodes of a path are distinct, so a walk is never
deeper than the list `nodes` of the graph's nodes is long. -/
def findCycle (next : α → List α) (chosen : α → Bool) (nodes : List α) (start : α) :
    Option (List α) :=
  (Walk.visit next chosen (nodes.length + 1) {} start).1

end AnnotationGuards.Graph
