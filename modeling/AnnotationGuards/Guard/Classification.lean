import AnnotationGuards.Guard.Error
import AnnotationGuards.Guard.MetaGraph

/-! # Classification of annotation types

An annotation type is a guard if it carries the guard marker, or if one of its
metas is a guard. A guard from which a cycle of guards can be reached is
circular. A cycle among annotation types that are no guards does no harm, so
the guards are found before a cycle is looked for.
-/

namespace AnnotationGuards

/-- Whether a type is a guard, or the cycle that makes it an illegal one. -/
abbrev Verdict := Except Circularity Bool

/-- Classifies a type. -/
def classify (r : Registry σ) (t : TypeId) : Verdict :=
  if !r.isAnnotation t then .ok false
  else
    let graph := MetaGraph.build r t
    if !graph.guards.contains t then .ok false
    else
      match graph.guardCycle t with
      | some cycle => .error ⟨cycle, cycle.map r.qualifiedName⟩
      | none => .ok true

end AnnotationGuards
