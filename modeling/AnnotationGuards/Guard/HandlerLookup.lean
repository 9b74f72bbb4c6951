import AnnotationGuards.Config
import AnnotationGuards.Guard.Error
import AnnotationGuards.Registry.Attributes
import AnnotationGuards.Registry.Subtyping

/-! # Looking up the handler of a guard

A guard marker may name its handler class. Otherwise the class is found by its
name: nested in the annotation type as `Handler`, or as the annotation's name
followed by `Handler` in the annotation's package or a configured one. The class
that is found has to be a concrete handler class; if it is not, no other is
tried.
-/

namespace AnnotationGuards.Registry

variable {σ : Type}

/-- The handler class that a marker names. Void stands for none. -/
def explicitHandler? (r : Registry σ) (marker : Annotation) : Option TypeId :=
  ((r.attribute? marker MarkerAttribute.handler).bind AttrValue.asType?).filter (· ≠ .void)

/-- The name of a handler class nested in an annotation type. -/
def nestedHandlerName (r : Registry σ) (t : TypeId) : String := r.qualifiedName t ++ ".Handler"

/-- The names of handler classes beside an annotation type and in the configured
packages, in the order in which they are tried. -/
def siblingHandlerNames (config : GuardConfig) (d : TypeDef σ) : List String :=
  (d.package :: config.handlerPackages).map fun package => qualify package (d.name ++ "Handler")

/-- The class with a nested handler's name, if it has the handler capability. -/
def nestedHandler? (r : Registry σ) (t : TypeId) : Option TypeId :=
  (r.getByName? (r.nestedHandlerName t)).filter fun h => r.isSubtype h .guardHandler

/-- The handler class that is found by its name. -/
def conventionalHandler (r : Registry σ) (config : GuardConfig) (t : TypeId) :
    Except GuardError TypeId :=
  match r.get? t with
  | none => .error (.unknownType t)
  | some d =>
    match r.nestedHandler? t with
    | some h => .ok h
    | none =>
      -- The first registered name decides, whether or not it can serve.
      match (siblingHandlerNames config d).findSome? r.getByName? with
      | some h => .ok h
      | none =>
        .error (.noHandler (r.qualifiedName t)
          (r.nestedHandlerName t :: siblingHandlerNames config d))

/-- Checks that a type can serve as the handler of a guard: a concrete class that
has the handler capability and handler code. -/
def validateHandler (r : Registry σ) (guard : String) (h : TypeId) : Except GuardError Unit :=
  match r.class? h with
  | none => .error (.notAHandler guard (r.qualifiedName h))
  | some c =>
    if c.isAbstract then .error (.abstractHandler guard (r.qualifiedName h))
    else if !r.isSubtype h .guardHandler || c.handler.isNone then
      .error (.notAHandler guard (r.qualifiedName h))
    else .ok ()

/-- The handler class of the annotation type `t` under a guard marker. -/
def resolveHandler (r : Registry σ) (config : GuardConfig) (t : TypeId) (marker : Annotation) :
    Except GuardError TypeId := do
  let h ←
    match r.explicitHandler? marker with
    | some h => pure h
    | none => r.conventionalHandler config t
  r.validateHandler (r.qualifiedName t) h
  pure h

end AnnotationGuards.Registry
