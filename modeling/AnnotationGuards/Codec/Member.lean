import AnnotationGuards.Codec.Annotation
import AnnotationGuards.Program.Member

/-! # Members as data

Generic types, parameters and members are written as records of their components.
-/

namespace AnnotationGuards

namespace Encode

mutual

/-- A generic type as data. -/
def genericType : GenericType → Json
  | .mk raw arguments =>
    .record [("raw", typeId raw), ("arguments", .array (genericTypes arguments))]

/-- Type arguments as data. -/
def genericTypes : List GenericType → List Json
  | [] => []
  | t :: rest => genericType t :: genericTypes rest

end

/-- A parameter as data. -/
def param (p : Param) : Json :=
  .record [("name", .str p.name), ("ty", genericType p.type),
    ("annotations", .array (p.annotations.map annotation))]

/-- The name of a kind of member. -/
def memberKind : MemberKind → Json
  | .method => .str "Method"
  | .constructor => .str "Constructor"

/-- A member as data. -/
def member (m : Member) : Json :=
  .record [("kind", memberKind m.kind), ("name", .str m.name),
    ("params", .array (m.params.map param)), ("return_type", genericType m.returnType),
    ("annotations", .array (m.annotations.map annotation))]

end Encode

namespace Decode

/-- A generic type: a record that holds an array. -/
def genericType? : Nat → Json → Option GenericType
  | 0, _ | 1, _ => none
  | level + 2, j =>
    match fullRecord? ["raw", "arguments"] j with
    | some [raw, arguments] => do
      let raw ← typeId? raw
      let arguments ← (elements? arguments).bind fun items => items.mapM (genericType? level)
      pure (.mk raw arguments)
    | _ => none

/-- A parameter. -/
def param? : Nat → Json → Option Param
  | 0, _ => none
  | level + 1, j =>
    match fullRecord? ["name", "ty", "annotations"] j with
    | some [name, type, annotations] => do
      pure ⟨← string? name, ← genericType? level type, ← listOf annotation? level annotations⟩
    | _ => none

/-- A kind of member, by its name. -/
def memberKind? (level : Nat) (j : Json) : Option MemberKind :=
  match name? level j with
  | some "Method" => some .method
  | some "Constructor" => some .constructor
  | _ => none

/-- A member. -/
def member? : Nat → Json → Option Member
  | 0, _ => none
  | level + 1, j =>
    match fullRecord? ["kind", "name", "params", "return_type", "annotations"] j with
    | some [kind, name, params, returnType, annotations] => do
      pure ⟨← memberKind? level kind, ← string? name, ← listOf param? level params,
        ← genericType? level returnType, ← listOf annotation? level annotations⟩
    | _ => none

end Decode

end AnnotationGuards
