import AnnotationGuards.Codec.Basic
import AnnotationGuards.Config
import AnnotationGuards.Json.Parser

/-! # Configurations as data

A configuration is a record whose components may all be missing.
-/

namespace AnnotationGuards

namespace Encode

/-- A configuration as data. -/
def config (c : GuardConfig) : Json :=
  .record [("handler_packages", .array (c.handlerPackages.map Json.str)),
    ("contain_handler_panics", .bool c.containPanics),
    ("max_value_len", .int c.maxValueLength.toNat)]

end Encode

namespace Decode

/-- A component that is decoded if it is there and has a default otherwise. -/
def orDefault (default : α) (decode : Json → Option α) : Option Json → Option α
  | none => some default
  | some j => decode j

/-- A configuration. -/
def config? : Nat → Json → Option GuardConfig
  | 0, _ => none
  | level + 1, j =>
    let base : GuardConfig := {}
    match record? ["handler_packages", "contain_handler_panics", "max_value_len"] j with
    | some [packages, contain, length] => do
      pure ⟨← orDefault base.handlerPackages (listOf (fun _ => string?) level) packages,
        ← orDefault base.containPanics bool? contain,
        ← orDefault base.maxValueLength
          (fun j => (integer? 0 18446744073709551615 j).map fun i => UInt64.ofNat i.toNat) length⟩
    | _ => none

end Decode

/-- The configuration that a JSON text holds. -/
def GuardConfig.ofText? (text : String) : Option GuardConfig :=
  (Json.parse? text).bind (Decode.config? Decode.levels)

end AnnotationGuards
