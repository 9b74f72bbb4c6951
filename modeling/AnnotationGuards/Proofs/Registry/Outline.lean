import AnnotationGuards.Handler.Matching
import AnnotationGuards.Proofs.Registry.Contents

/-! # The outline of a registry

    Subtypes are read off little of what a registry holds: which of its types are
    primitives, and what its classes box and declare as supertypes. All this is the same in
    the outline of the registry, so registries that have one outline agree on it, whatever
    else they hold.

    * `Registry.outline`: the registry without members, handler code and metas.
    * `Registry.isAssignable_outline`: subtypes are the same.
    * `MatchedTest.choose_outline`: so is the choice among given tests. -/

namespace AnnotationGuards

variable {σ : Type}

/-- The class without its members and its handler code. -/
def ClassDef.outline (d : ClassDef σ) : ClassDef σ := { d with members := [], handler := none }

/-- The registry without members, handler code and all that annotation types declare. -/
abbrev Registry.outline (r : Registry σ) : Registry σ := r.mapContents ClassDef.outline fun _ => {}

namespace Registry

variable (r : Registry σ) (t : TypeId)

@[simp] theorem unboxed?_outline : r.outline.unboxed? t = r.unboxed? t := by
  cases h : r.class? t <;> simp [unboxed?, h, ClassDef.outline]

@[simp] theorem supertypes_outline : r.outline.supertypes = r.supertypes := by
  funext t
  unfold supertypes
  rw [class?_mapContents]
  cases r.class? t <;> rfl

@[simp] theorem isSubtype_outline (sup : TypeId) :
    r.outline.isSubtype t sup = r.isSubtype t sup := by
  simp [isSubtype, isReference, ancestors]

@[simp] theorem isAssignable_outline (declared : TypeId) :
    r.outline.isAssignable t declared = r.isAssignable t declared := by
  simp [isAssignable]

end Registry

/-- Among given tests the choice is made by types alone. -/
theorem MatchedTest.choose_outline (r : Registry σ) (tests : List (Test σ)) (testsNull : Bool)
    (t : TypeId) : choose r.outline tests testsNull t = choose r tests testsNull t := by
  simp [choose, mostSpecific, applicable, leastOf]

end AnnotationGuards
