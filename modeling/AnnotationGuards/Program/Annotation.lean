import AnnotationGuards.Entries
import AnnotationGuards.Program.TypeId

/-! # Annotations

An annotation is an annotation type together with the attribute values written
where it is used. Attribute values may again hold annotations. Defaults that
the annotation type declares are not part of the annotation; they are looked up
in the registry.
-/

namespace AnnotationGuards

/-- The value of an annotation attribute. -/
inductive AttrValue where
  | bool (b : Bool)
  | int (i : Int64)
  | double (x : Float)
  | str (s : String)
  | type (t : TypeId)
  | array (items : List AttrValue)
  /-- An annotation: its type and the attribute values it is written with. -/
  | nested (type : TypeId) (attributes : List (String × AttrValue))
  deriving Inhabited

/-- An annotation at a use site. -/
structure Annotation where
  type : TypeId
  /-- The attribute values written at the use site, in order. -/
  attributes : Entries String AttrValue := []
  deriving Inhabited

namespace Annotation

/-- The annotation with an attribute set. Setting a name again replaces its
value and keeps its place. -/
def set (a : Annotation) (name : String) (value : AttrValue) : Annotation :=
  { a with attributes := Entries.put a.attributes name value }

/-- The annotation of a type with attributes set one after the other. -/
def ofPairs (type : TypeId) (pairs : List (String × AttrValue)) : Annotation :=
  ⟨type, Entries.ofPairs pairs⟩

/-- The value written at the use site for an attribute. -/
def get? (a : Annotation) (name : String) : Option AttrValue :=
  Entries.get? a.attributes name

end Annotation

namespace AttrValue

/-- An annotation as an attribute value. -/
def ofAnnotation (a : Annotation) : AttrValue := .nested a.type a.attributes

/-! ## Views -/

def asBool? : AttrValue → Option Bool
  | .bool b => some b
  | _ => none

def asInt? : AttrValue → Option Int64
  | .int i => some i
  | _ => none

/-- A double, or an integer rounded to the nearest double. -/
def asDouble? : AttrValue → Option Float
  | .double x => some x
  | .int i => some i.toFloat
  | _ => none

def asStr? : AttrValue → Option String
  | .str s => some s
  | _ => none

def asType? : AttrValue → Option TypeId
  | .type t => some t
  | _ => none

/-- The types of an array of types, or the one type that stands for such an
array. Items that are not types are left out. -/
def asTypes : AttrValue → List TypeId
  | .array items => items.filterMap asType?
  | .type t => [t]
  | _ => []

end AttrValue

/-- The declaration of an annotation type. -/
structure AnnotationDef where
  /-- The declared attributes in order, each with its default if it has one. -/
  attributes : Entries String (Option AttrValue) := []
  /-- The annotations on the annotation type itself. -/
  metas : List Annotation := []
  deriving Inhabited

namespace AnnotationDef

/-- The default that the declaration gives to an attribute. -/
def default? (d : AnnotationDef) (name : String) : Option AttrValue :=
  (Entries.get? d.attributes name).join

end AnnotationDef

end AnnotationGuards
