/-! # Primitive types

The eight unboxed types of the guarded program and the widening conversions
between them. Widening is stated once, as the chain of wider types of each
primitive, nearest first.
-/

namespace AnnotationGuards

/-- The primitive (unboxed) types. -/
inductive Primitive where
  | boolean | byte | short | char | int | long | float | double
  deriving DecidableEq, Repr, Inhabited

namespace Primitive

/-- Every primitive, in the order in which the language lists them. -/
def all : List Primitive :=
  [.boolean, .byte, .short, .char, .int, .long, .float, .double]

/-- The keyword that names the type. -/
def name : Primitive → String
  | .boolean => "boolean"
  | .byte => "byte"
  | .short => "short"
  | .char => "char"
  | .int => "int"
  | .long => "long"
  | .float => "float"
  | .double => "double"

/-! ## Widening -/

/-- The types a value of this type widens to, nearest first. -/
def wider : Primitive → List Primitive
  | .boolean => []
  | .byte => [.short, .int, .long, .float, .double]
  | .short => [.int, .long, .float, .double]
  | .char => [.int, .long, .float, .double]
  | .int => [.long, .float, .double]
  | .long => [.float, .double]
  | .float => [.double]
  | .double => []

/-- The type itself followed by the types it widens to, nearest first. -/
def chain (p : Primitive) : List Primitive := p :: p.wider

/-- Whether a value of type `p` may be passed where `q` is declared. -/
def canWiden (p q : Primitive) : Bool := p.chain.contains q

theorem mem_all (p : Primitive) : p ∈ all := by cases p <;> decide

end Primitive

end AnnotationGuards
