import AnnotationGuards.Registry.Basic

/-! # The built-in types

The types that every registry starts with, in the order of their identities:
the primitives, the core classes that the engine reasons about, the language's
own meta-annotations, and the guard annotations.
-/

namespace AnnotationGuards

namespace MarkerAttribute

/-- The template of a guard's message. -/
def message : String := "message"
/-- The handler class of a guard. -/
def handler : String := "handler"
/-- Whether the handler sees null values as well. -/
def testsNull : String := "testsNull"
/-- Related guards, an ordering hint. -/
def relations : String := "relations"
/-- The rank of a guard, an ordering hint. -/
def order : String := "order"

end MarkerAttribute

namespace Registry

variable {σ : Type}

/-! ## Shapes of built-in declarations -/

def builtinPrimitive (p : Primitive) : TypeDef σ :=
  { name := p.name, package := "", kind := .primitive p }

def builtinClass (name : String) (c : ClassDef σ) : TypeDef σ :=
  { name, package := "lang", kind := .classType c }

/-- A wrapper class; the numeric ones are numbers. -/
def builtinBox (name : String) (p : Primitive) (supertypes : List TypeId) : TypeDef σ :=
  builtinClass name { boxes := some p, supertypes }

def builtinMeta (name : String) (attributes : Entries String (Option AttrValue)) : TypeDef σ :=
  { name, package := "lang.annotation", kind := .annotationType { attributes } }

/-- The meta-annotation that keeps an annotation at run time. -/
def keptAtRuntime : Annotation := { type := .retention, attributes := [("value", .str "RUNTIME")] }

/-- The declaration of the guard marker. -/
def markerDef : AnnotationDef where
  attributes := [
    (MarkerAttribute.message, some (.str "")),
    (MarkerAttribute.handler, some (.type .void)),
    (MarkerAttribute.testsNull, some (.bool false)),
    (MarkerAttribute.relations, some (.array [])),
    (MarkerAttribute.order, some (.int 0))]
  metas := [keptAtRuntime, { type := .documented }]

/-! ## The first registry -/

/-- The built-in types, in the order of their identities. -/
def builtinTypes : List (TypeDef σ) := [
  { name := "void", package := "", kind := .void },
  builtinPrimitive .boolean,
  builtinPrimitive .byte,
  builtinPrimitive .short,
  builtinPrimitive .char,
  builtinPrimitive .int,
  builtinPrimitive .long,
  builtinPrimitive .float,
  builtinPrimitive .double,
  builtinClass "Object" {},
  builtinBox "Boolean" .boolean [],
  builtinBox "Byte" .byte [.number],
  builtinBox "Short" .short [.number],
  builtinBox "Character" .char [],
  builtinBox "Integer" .int [.number],
  builtinBox "Long" .long [.number],
  builtinBox "Float" .float [.number],
  builtinBox "Double" .double [.number],
  builtinClass "Number" { isAbstract := true },
  builtinClass "CharSequence" .interface,
  builtinClass "String" { supertypes := [.charSequence] },
  builtinClass "Iterable" .interface,
  builtinClass "Collection" { ClassDef.interface with supertypes := [.iterable] },
  builtinClass "List" { ClassDef.interface with supertypes := [.collection] },
  builtinClass "Class" {},
  builtinClass "Type" .interface,
  { name := "GuardHandler", package := "guard", kind := .classType .interface },
  builtinMeta "Retention" [("value", none)],
  builtinMeta "Target" [("value", none)],
  builtinMeta "Documented" [],
  builtinMeta "Inherited" [],
  builtinMeta "Repeatable" [("value", none)],
  { name := "Guard", package := "guard", kind := .annotationType markerDef },
  { name := "Sensitive", package := "guard",
    kind := .annotationType { metas := [keptAtRuntime] } }]

/-- The registry that holds the built-in types alone. Built-in types are declared
at top level, so each is indexed under its package and name. -/
def initial : Registry σ where
  types := builtinTypes
  names := builtinTypes.mapIdx fun i (d : TypeDef σ) => (qualify d.package d.name, TypeId.ofNat i)

end Registry

end AnnotationGuards
