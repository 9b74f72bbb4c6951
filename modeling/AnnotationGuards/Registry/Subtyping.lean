import AnnotationGuards.Graph.Reachable
import AnnotationGuards.Registry.Builtin

/-! # Subtyping

A class is a subtype of whatever it declares as a supertype, directly or through
other classes, and every registered type but the primitives and void is a
subtype of the top of the hierarchy.
-/

namespace AnnotationGuards.Registry

variable {σ : Type}

/-- The supertypes that a class declares; none for anything else. -/
def supertypes (r : Registry σ) (t : TypeId) : List TypeId :=
  match r.class? t with
  | some c => c.supertypes
  | none => []

/-- The types above a type: those reached by one or more declared steps. -/
def ancestors (r : Registry σ) (t : TypeId) : List TypeId :=
  Graph.reachable r.supertypes r.ids (r.supertypes t)

/-- Whether the type is a registered one that has the top of the hierarchy above
it: neither a primitive nor void. -/
def isReference (r : Registry σ) (t : TypeId) : Bool :=
  (r.get? t).isSome && (r.primitive? t).isNone && t ≠ .void

/-- Whether every value of type `sub` is one of type `sup`. -/
def isSubtype (r : Registry σ) (sub sup : TypeId) : Bool :=
  sub = sup || (r.isReference sub && (sup = .object || (r.ancestors sub).contains sup))

/-- Whether a value of static type `source` may be passed where `declared` stands. A
primitive goes to itself only; widening is a matter of its own. -/
def isAssignable (r : Registry σ) (source declared : TypeId) : Bool :=
  if (r.primitive? source).isSome || (r.primitive? declared).isSome then source = declared
  else r.isSubtype source declared

end AnnotationGuards.Registry
