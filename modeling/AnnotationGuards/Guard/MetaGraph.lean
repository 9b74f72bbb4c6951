import AnnotationGuards.Graph.CycleWalk
import AnnotationGuards.Registry.Builtin

/-! # The meta graph of an annotation type

The metas of an annotation type are annotation types themselves and have metas
of their own. Those that can be reached from one type span its meta graph, in
which an edge leads from a meta to the type that carries it. The guard marker
and the language's own metas are no nodes of it.

Being a guard spreads along the edges: from the types that carry the marker to
all that they are metas of. A cycle is looked for against the edges, from the
type itself towards its metas, among guards alone.

## Contents

- `MetaGraph.build`: the graph of a type, by a work list
- `MetaGraph.guards`: the nodes that are guards, by marker or by inheritance
- `MetaGraph.guardCycle`: the first cycle of guards met from a node
-/

namespace AnnotationGuards

namespace Registry

variable {σ : Type}

/-- The metas that an annotation type declares; none for any other type. -/
def metas (r : Registry σ) (t : TypeId) : List Annotation :=
  match r.annotation? t with
  | some d => d.metas
  | none => []

/-- Whether a meta of this type is an edge of the meta graph. -/
def isMetaEdge (r : Registry σ) (t : TypeId) : Bool :=
  t ≠ .guardMarker && !t.isLanguageMeta && r.isAnnotation t

end Registry

/-- The metas around one annotation type. -/
structure MetaGraph where
  /-- The types, in the order in which they were met. -/
  nodes : List TypeId := []
  /-- The edges, each from a meta to a type that carries it. The edge added last
  comes first. -/
  edges : List (TypeId × TypeId) := []
  /-- The types that carry the guard marker. -/
  marked : List TypeId := []
  deriving Inhabited

namespace MetaGraph

/-- The metas of a node, the one met last coming first. -/
def metasOf (g : MetaGraph) (node : TypeId) : List TypeId :=
  (g.edges.filter fun e => e.2 = node).map Prod.fst

/-- The nodes that carry a node as a meta. -/
def carriersOf (g : MetaGraph) (node : TypeId) : List TypeId :=
  (g.edges.filter fun e => e.1 = node).map Prod.snd

/-- The graph with one more edge, unless it has that edge already. -/
def addEdge (g : MetaGraph) (source target : TypeId) : MetaGraph :=
  if (source, target) ∈ g.edges then g else { g with edges := (source, target) :: g.edges }

/-- The graph with a node marked. -/
def mark (g : MetaGraph) (node : TypeId) : MetaGraph :=
  if node ∈ g.marked then g else { g with marked := g.marked ++ [node] }

/-! ## Building the graph -/

/-- A graph under construction. -/
structure Draft where
  graph : MetaGraph
  /-- The nodes whose metas are still to be read, the next one first. -/
  pending : List TypeId

namespace Draft

variable {σ : Type}

/-- Makes a type a node, to be read in its turn, unless it is one already. -/
def addNode (d : Draft) (node : TypeId) : Draft :=
  if node ∈ d.graph.nodes then d
  else
    { graph := { d.graph with nodes := d.graph.nodes ++ [node] }
      pending := node :: d.pending }

/-- Enters one meta of the type `current` into the graph. -/
def readMeta (r : Registry σ) (current : TypeId) (d : Draft) (m : Annotation) : Draft :=
  if m.type = .guardMarker then { d with graph := d.graph.mark current }
  else if r.isMetaEdge m.type then
    let d := d.addNode m.type
    { d with graph := d.graph.addEdge m.type current }
  else d

/-- Reads the pending nodes, and those that turn up on the way. -/
def readAll (r : Registry σ) : Nat → Draft → MetaGraph
  | 0, d => d.graph
  | _ + 1, ⟨graph, []⟩ => graph
  | fuel + 1, ⟨graph, current :: pending⟩ =>
    readAll r fuel ((r.metas current).foldl (readMeta r current) ⟨graph, pending⟩)

end Draft

variable {σ : Type}

/-- The meta graph of a type. Each node is read once, and every node but the first
is a registered type. -/
def build (r : Registry σ) (origin : TypeId) : MetaGraph :=
  Draft.readAll r (r.size + 1) ⟨{ nodes := [origin] }, [origin]⟩

/-! ## Guards -/

/-- Makes guards of all that carry a queued guard, and queues them in turn. -/
def spread (g : MetaGraph) : Nat → List TypeId → List TypeId → List TypeId
  | 0, found, _ => found
  | _ + 1, found, [] => found
  | fuel + 1, found, node :: queue =>
    let fresh := (g.carriersOf node).filter fun carrier => !found.contains carrier
    spread g fuel (found ++ fresh) (queue ++ fresh)

/-- The nodes that are guards: the marked ones, and all that carry a guard as a
meta. Each node is queued at most once. -/
def guards (g : MetaGraph) : List TypeId := g.spread g.nodes.length g.marked g.marked

/-- The first cycle of guards that a walk from `start` towards its metas meets. -/
def guardCycle (g : MetaGraph) (start : TypeId) : Option (List TypeId) :=
  Graph.findCycle g.metasOf g.guards.contains g.nodes start

end MetaGraph

end AnnotationGuards
