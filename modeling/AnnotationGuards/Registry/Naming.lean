import AnnotationGuards.Registry.Basic

/-! # Names of composed things

How generic types and members are named: a generic type by simple names, for
messages; a member by the qualified names of its raw parameter types, as the key
under which calls are dispatched.
-/

namespace AnnotationGuards.Registry

variable {σ : Type}

mutual

/-- A generic type by simple names, with its arguments in angle brackets. -/
def renderType (r : Registry σ) : GenericType → String
  | .mk raw [] => r.simpleName raw
  | .mk raw (first :: rest) =>
    r.simpleName raw ++ "<" ++ ", ".intercalate (renderType r first :: renderTypes r rest) ++ ">"

/-- Generic types by simple names. -/
def renderTypes (r : Registry σ) : List GenericType → List String
  | [] => []
  | t :: rest => renderType r t :: renderTypes r rest

end

/-- The key of a member: its name and its raw parameter types. Type arguments, the
names of parameters, the returned type and annotations have no part in it. -/
def signature (r : Registry σ) (m : Member) : String :=
  m.name ++ "(" ++ ", ".intercalate (m.params.map fun p => r.qualifiedName p.type.raw) ++ ")"

end AnnotationGuards.Registry
