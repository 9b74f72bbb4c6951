import AnnotationGuards.Program.TypeDef

/-! # The type registry

A registry holds every type of the guarded program, each at the position that is
its identity, together with an index from qualified names to identities. Types
are only ever added; an annotation type may later gain metas, and a class may
get new members or handler code.

## Contents

- `Registry.get?` and its views `class?`, `annotation?`, `primitive?`, `unboxed?`
- `Registry.qualifiedName`, `Registry.simpleName`: names of types
- `Registry.declareClass`, `Registry.declareNested`, `Registry.declareAnnotation`
- `Registry.addMeta`, `Registry.setMembers`, `Registry.setHandler`
-/

namespace AnnotationGuards

/-- All types of a program. -/
structure Registry (σ : Type) where
  /-- The types, each at the position that is its identity. -/
  types : List (TypeDef σ) := []
  /-- The identity of each type by its qualified name. -/
  names : Entries String TypeId := []

/-- Why a change to a registry is refused. -/
inductive RegistryError where
  | duplicateName (name : String)
  | typeNotFound (type : TypeId)
  | notAClass (name : String)
  | notAnAnnotationType (name : String)
  deriving DecidableEq, Repr

/-- The text of a refusal. -/
def RegistryError.message : RegistryError → String
  | .duplicateName name => "duplicate type name: '" ++ name ++ "'"
  | .typeNotFound type => "type not found: " ++ type.text
  | .notAClass name => "'" ++ name ++ "' is not a class"
  | .notAnAnnotationType name => "'" ++ name ++ "' is not an annotation type"

namespace Registry

variable {σ : Type}

/-! ## Looking up types -/

/-- The type with an identity. -/
def get? (r : Registry σ) (t : TypeId) : Option (TypeDef σ) := r.types[t.toNat]?

/-- The identity of the type with a qualified name. -/
def getByName? (r : Registry σ) (name : String) : Option TypeId := Entries.get? r.names name

/-- The number of types. -/
def size (r : Registry σ) : Nat := r.types.length

/-- Every registered identity. -/
def ids (r : Registry σ) : List TypeId := (List.range r.size).map TypeId.ofNat

theorem mem_ids_of_get? {r : Registry σ} {t : TypeId} {d : TypeDef σ} (h : r.get? t = some d) :
    t ∈ r.ids := by
  have hlt : t.toNat < r.size := (List.getElem?_eq_some_iff.mp h).1
  exact List.mem_map.mpr ⟨t.toNat, List.mem_range.mpr hlt, t.ofNat_toNat⟩

def class? (r : Registry σ) (t : TypeId) : Option (ClassDef σ) :=
  (r.get? t).bind TypeDef.class?

def annotation? (r : Registry σ) (t : TypeId) : Option AnnotationDef :=
  (r.get? t).bind TypeDef.annotation?

/-- Whether the identity is that of an annotation type. -/
def isAnnotation (r : Registry σ) (t : TypeId) : Bool := (r.annotation? t).isSome

/-- Whether the identity is that of a class or interface. -/
def isClass (r : Registry σ) (t : TypeId) : Bool := (r.class? t).isSome

/-- The primitive with this identity. -/
def primitive? (r : Registry σ) (t : TypeId) : Option Primitive :=
  (r.get? t).bind TypeDef.primitive?

/-- The primitive that the class with this identity wraps. -/
def unboxed? (r : Registry σ) (t : TypeId) : Option Primitive :=
  (r.class? t).bind ClassDef.boxes

/-- The handler code of the class with this identity. -/
def handler? (r : Registry σ) (t : TypeId) : Option (Handler σ) :=
  (r.class? t).bind ClassDef.handler

/-! ## Names -/

/-- A name inside a package; the unnamed package adds nothing. -/
def qualify (package name : String) : String :=
  if package.isEmpty then name else package ++ "." ++ name

/-- How an identity without a type is shown. -/
def unknownName (t : TypeId) : String := "<unknown " ++ t.text ++ ">"

/-- The qualified name of a type with at most `depth` types around it. -/
def qualifiedNameWithin (r : Registry σ) : Nat → TypeId → String
  | 0, t => unknownName t
  | depth + 1, t =>
    match r.get? t with
    | none => unknownName t
    | some d =>
      match d.enclosing with
      | some outer => r.qualifiedNameWithin depth outer ++ "." ++ d.name
      | none => qualify d.package d.name

/-- The qualified name of a type: its package and name, or the qualified name of
the type around it and its name. An enclosing type is declared before the types
inside it, so a type's own number bounds how deep it is nested. -/
def qualifiedName (r : Registry σ) (t : TypeId) : String :=
  r.qualifiedNameWithin (t.toNat + 1) t

/-- The name of a type by itself. -/
def simpleName (r : Registry σ) (t : TypeId) : String :=
  match r.get? t with
  | some d => d.name
  | none => unknownName t

/-! ## Declaring types -/

/-- The qualified name that a declaration is going to have. -/
def nameOf (r : Registry σ) (d : TypeDef σ) : String :=
  match d.enclosing with
  | some outer => r.qualifiedName outer ++ "." ++ d.name
  | none => qualify d.package d.name

/-- Adds a type under the next identity, unless its qualified name is taken. -/
def declare (r : Registry σ) (d : TypeDef σ) :
    Except RegistryError (TypeId × Registry σ) :=
  let name := r.nameOf d
  if Entries.contains r.names name then .error (.duplicateName name)
  else
    -- The next identity is the number of types so far.
    let t := TypeId.ofNat r.types.length
    .ok (t, { types := r.types ++ [d], names := Entries.put r.names name t })

/-- Declares a top-level class or interface. -/
def declareClass (r : Registry σ) (package name : String) (c : ClassDef σ) :
    Except RegistryError (TypeId × Registry σ) :=
  r.declare { name, package, kind := .classType c }

/-- Declares a class inside another type, in that type's package. -/
def declareNested (r : Registry σ) (outer : TypeId) (name : String) (c : ClassDef σ) :
    Except RegistryError (TypeId × Registry σ) :=
  match r.get? outer with
  | none => .error (.typeNotFound outer)
  | some d => r.declare { name, package := d.package, enclosing := some outer, kind := .classType c }

/-- Declares an annotation type. -/
def declareAnnotation (r : Registry σ) (package name : String) (d : AnnotationDef) :
    Except RegistryError (TypeId × Registry σ) :=
  r.declare { name, package, kind := .annotationType d }

/-! ## Changing declared types -/

/-- The registry with another content for one of its types. -/
def setKind (r : Registry σ) (t : TypeId) (kind : TypeKind σ) : Registry σ :=
  { r with types := r.types.modify t.toNat fun d => { d with kind } }

/-- Adds a meta-annotation to an annotation type. -/
def addMeta (r : Registry σ) (t : TypeId) (added : Annotation) :
    Except RegistryError (Registry σ) :=
  match r.get? t with
  | none => .error (.typeNotFound t)
  | some d =>
    match d.kind with
    | .annotationType a =>
      .ok (r.setKind t (.annotationType { a with metas := a.metas ++ [added] }))
    | _ => .error (.notAnAnnotationType (r.qualifiedName t))

/-- Changes the declaration of a class. -/
def updateClass (r : Registry σ) (t : TypeId) (change : ClassDef σ → ClassDef σ) :
    Except RegistryError (Registry σ) :=
  match r.get? t with
  | none => .error (.typeNotFound t)
  | some d =>
    match d.kind with
    | .classType c => .ok (r.setKind t (.classType (change c)))
    | _ => .error (.notAClass (r.qualifiedName t))

/-- Replaces the members of a class. -/
def setMembers (r : Registry σ) (t : TypeId) (members : List Member) :
    Except RegistryError (Registry σ) :=
  r.updateClass t fun c => { c with members }

/-- Gives a class handler code and the handler capability. -/
def setHandler (r : Registry σ) (t : TypeId) (h : Handler σ) :
    Except RegistryError (Registry σ) :=
  r.updateClass t fun c => c.withHandler h

end Registry

end AnnotationGuards
