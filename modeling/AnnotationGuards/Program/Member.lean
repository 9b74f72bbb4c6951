import AnnotationGuards.Program.Annotation

/-! # Members

The methods and constructors of a class, with the types of their parameters and
the annotations on them.
-/

namespace AnnotationGuards

/-- A type as it is written at a declaration: a raw type and its arguments. -/
inductive GenericType where
  | mk (raw : TypeId) (arguments : List GenericType)
  deriving Inhabited

namespace GenericType

/-- The type without its arguments. -/
def raw : GenericType → TypeId
  | mk raw _ => raw

def arguments : GenericType → List GenericType
  | mk _ arguments => arguments

/-- A type without arguments. -/
def ofRaw (t : TypeId) : GenericType := mk t []

end GenericType

/-- A declared parameter. -/
structure Param where
  name : String
  type : GenericType
  annotations : List Annotation := []
  deriving Inhabited

/-- Whether a member is a method or a constructor. -/
inductive MemberKind where
  | method
  | constructor
  deriving DecidableEq, Repr, Inhabited

/-- A declared method or constructor. -/
structure Member where
  kind : MemberKind
  name : String
  params : List Param := []
  returnType : GenericType := .ofRaw .void
  /-- The annotations on the member, which apply to its returned value. -/
  annotations : List Annotation := []
  deriving Inhabited

namespace Member

/-- The name under which constructors are declared. -/
def constructorName : String := "<init>"

/-- Whether calling the member yields a value. -/
def returnsValue (m : Member) : Bool :=
  m.kind = .method && m.returnType.raw ≠ .void

end Member

end AnnotationGuards
