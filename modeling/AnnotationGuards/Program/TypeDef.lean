import AnnotationGuards.Handler.Basic

/-! # Type declarations

What a registry holds for each type: its name and the place where it was
declared, and its content as a primitive, a class or an annotation type.
-/

namespace AnnotationGuards

/-- The declaration of a class or interface. -/
structure ClassDef (σ : Type) where
  isInterface : Bool := false
  isAbstract : Bool := false
  /-- The declared supertypes. None stands for the top of the hierarchy alone. -/
  supertypes : List TypeId := []
  /-- For a wrapper class, the primitive that it wraps. -/
  boxes : Option Primitive := none
  members : List Member := []
  /-- The code of a guard handler class. -/
  handler : Option (Handler σ) := none

namespace ClassDef

variable {σ : Type}

/-- An interface, which is abstract as well. -/
def interface : ClassDef σ := { isInterface := true, isAbstract := true }

/-- The class with the handler capability among its supertypes. -/
def withCapability (c : ClassDef σ) : ClassDef σ :=
  if c.supertypes.contains .guardHandler then c
  else { c with supertypes := c.supertypes ++ [.guardHandler] }

/-- The class with handler code, and with the capability that goes with it. -/
def withHandler (c : ClassDef σ) (h : Handler σ) : ClassDef σ :=
  { c.withCapability with handler := some h }

end ClassDef

/-- What a type is. -/
inductive TypeKind (σ : Type) where
  | void
  | primitive (p : Primitive)
  | classType (c : ClassDef σ)
  | annotationType (d : AnnotationDef)

/-- A declared type. -/
structure TypeDef (σ : Type) where
  name : String
  package : String
  /-- The type inside which this one is declared. -/
  enclosing : Option TypeId := none
  kind : TypeKind σ

namespace TypeDef

variable {σ : Type}

def class? (d : TypeDef σ) : Option (ClassDef σ) :=
  match d.kind with
  | .classType c => some c
  | _ => none

def annotation? (d : TypeDef σ) : Option AnnotationDef :=
  match d.kind with
  | .annotationType a => some a
  | _ => none

def primitive? (d : TypeDef σ) : Option Primitive :=
  match d.kind with
  | .primitive p => some p
  | _ => none

end TypeDef

end AnnotationGuards
