import AnnotationGuards.Registry.Builtin

/-! # Attributes with their defaults

The value of an annotation's attribute is the one written at the use site, or
else the default that the annotation type declares.
-/

namespace AnnotationGuards.Registry

variable {σ : Type}

/-- The default that an annotation type declares for an attribute. -/
def default? (r : Registry σ) (t : TypeId) (name : String) : Option AttrValue :=
  (r.annotation? t).bind (·.default? name)

/-- The value of an attribute. -/
def attribute? (r : Registry σ) (a : Annotation) (name : String) : Option AttrValue :=
  match a.get? name with
  | some v => some v
  | none => r.default? a.type name

/-- The attributes that an annotation type declares, in order. -/
def declaredNames (r : Registry σ) (t : TypeId) : List String :=
  match r.annotation? t with
  | some d => Entries.keys d.attributes
  | none => []

/-- The declared attributes that have a value, in the order of declaration. -/
def declaredAttributes (r : Registry σ) (a : Annotation) : Entries String AttrValue :=
  (r.declaredNames a.type).foldl
    (fun found name =>
      match r.attribute? a name with
      | some v => Entries.put found name v
      | none => found) []

/-- All attributes that have a value: the declared ones first, then those that are
only written at the use site. -/
def attributes (r : Registry σ) (a : Annotation) : Entries String AttrValue :=
  a.attributes.foldl
    (fun found written =>
      if Entries.contains found written.1 then found
      else Entries.put found written.1 written.2)
    (r.declaredAttributes a)

end AnnotationGuards.Registry
