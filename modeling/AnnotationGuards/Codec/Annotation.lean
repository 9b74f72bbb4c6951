import AnnotationGuards.Codec.Basic
import AnnotationGuards.Program.Annotation

/-! # Annotations as data

An attribute value is written as a choice named for its kind, an annotation as a
record of its type and its attributes. The attributes form an object, in their
order.
-/

namespace AnnotationGuards

namespace Encode

mutual

/-- An attribute value as data. -/
def attrValue : AttrValue → Json
  | .bool b => alternative "Bool" (.bool b)
  | .int i => alternative "Int" (.int i.toInt)
  | .double x => alternative "Double" (double x)
  | .str s => alternative "Str" (.str s)
  | .type t => alternative "Type" (typeId t)
  | .array items => alternative "Array" (.array (attrValues items))
  | .nested t attributes =>
    alternative "Annotation"
      (.record [("type_id", typeId t), ("attributes", .object (namedAttrValues attributes))])

/-- The items of an array as data. -/
def attrValues : List AttrValue → List Json
  | [] => []
  | v :: rest => attrValue v :: attrValues rest

/-- Attributes as the fields of an object. -/
def namedAttrValues : List (String × AttrValue) → List (Option String × Json)
  | [] => []
  | (name, v) :: rest => (some name, attrValue v) :: namedAttrValues rest

end

/-- An annotation as data. -/
def annotation (a : Annotation) : Json :=
  .record [("type_id", typeId a.type), ("attributes", .object (namedAttrValues a.attributes))]

end Encode

namespace Decode

/-- A field of an attribute object, given a decoder of attribute values. -/
def namedAttrValue? (decode : Json → Option AttrValue) (field : Option String × Json) :
    Option (String × AttrValue) := do
  pure (← field.1, ← decode field.2)

/-- The attributes of an annotation, given a decoder of attribute values. A name that
is repeated keeps its first place and takes its last value. -/
def attributes? (decode : Json → Option AttrValue) : Json → Option (Entries String AttrValue)
  | .object fields => (fields.mapM (namedAttrValue? decode)).map Entries.ofPairs
  | _ => none

/-- An annotation, given a decoder of attribute values. The record is one level, its
attributes are another. -/
def annotationWith? (decode : Json → Option AttrValue) (j : Json) : Option Annotation :=
  match fullRecord? ["type_id", "attributes"] j with
  | some [type, attributes] => do pure ⟨← typeId? type, ← attributes? decode attributes⟩
  | _ => none

/-- An attribute value. Every alternative opens a level. -/
def attrValue? : Nat → Json → Option AttrValue
  | 0, _ => none
  | level + 1, j =>
    match alternative? j with
    | some ("Bool", some j) => (bool? j).map .bool
    | some ("Int", some j) =>
      (integer? (-9223372036854775808) 9223372036854775807 j).map fun i => .int (Int64.ofInt i)
    | some ("Double", some j) => (double? j).map .double
    | some ("Str", some j) => (string? j).map .str
    | some ("Type", some j) => (typeId? j).map .type
    -- The array is a level of its own.
    | some ("Array", some j) =>
      match level with
      | 0 => none
      | level + 1 => ((elements? j).bind fun items => items.mapM (attrValue? level)).map .array
    -- So are the record and the attributes in it.
    | some ("Annotation", some j) =>
      match level with
      | 0 | 1 => none
      | level + 2 => (annotationWith? (attrValue? level) j).map AttrValue.ofAnnotation
    | _ => none

/-- An annotation. -/
def annotation? : Nat → Json → Option Annotation
  | 0, _ | 1, _ => none
  | level + 2, j => annotationWith? (attrValue? level) j

end Decode

end AnnotationGuards
