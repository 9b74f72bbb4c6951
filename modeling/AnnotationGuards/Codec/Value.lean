import AnnotationGuards.Codec.Basic
import AnnotationGuards.Program.Value

/-! # Values as data

A value is written as a choice named for its kind.
-/

namespace AnnotationGuards

namespace Encode

mutual

/-- A value as data. -/
def value : Value → Json
  | .null => .str "Null"
  | .boolean b => alternative "Boolean" (.bool b)
  | .byte i => alternative "Byte" (.int i.toInt)
  | .short i => alternative "Short" (.int i.toInt)
  | .char c => alternative "Char" (.str c.toString)
  | .int i => alternative "Int" (.int i.toInt)
  | .long i => alternative "Long" (.int i.toInt)
  | .float x => alternative "Float" (single x)
  | .double x => alternative "Double" (double x)
  | .str s => alternative "Str" (.str s)
  | .list items => alternative "List" (.array (values items))
  | .object type repr =>
    alternative "Object" (.record [("class", typeId type), ("repr", .str repr)])

/-- The items of a list as data. -/
def values : List Value → List Json
  | [] => []
  | v :: rest => value v :: values rest

end

end Encode

namespace Decode

/-- The class and the string form of an object. -/
def object? : Nat → Json → Option Value
  | 0, _ => none
  | _ + 1, j =>
    match fullRecord? ["class", "repr"] j with
    | some [type, repr] => do pure (.object (← typeId? type) (← string? repr))
    | _ => none

/-- A value. Every alternative with content opens a level. -/
def value? : Nat → Json → Option Value
  | 0, j =>
    match alternative? j with
    | some ("Null", none) => some .null
    | _ => none
  | level + 1, j =>
    match alternative? j with
    | some ("Null", none) => some .null
    | some ("Null", some .null) => some .null
    | some ("Boolean", some j) => (bool? j).map .boolean
    | some ("Byte", some j) =>
      (integer? (-128) 127 j).map fun i => .byte (Int8.ofInt i)
    | some ("Short", some j) =>
      (integer? (-32768) 32767 j).map fun i => .short (Int16.ofInt i)
    | some ("Char", some j) => (char? j).map .char
    | some ("Int", some j) =>
      (integer? (-2147483648) 2147483647 j).map fun i => .int (Int32.ofInt i)
    | some ("Long", some j) =>
      (integer? (-9223372036854775808) 9223372036854775807 j).map fun i => .long (Int64.ofInt i)
    | some ("Float", some j) => (single? j).map .float
    | some ("Double", some j) => (double? j).map .double
    | some ("Str", some j) => (string? j).map .str
    -- The array is a level of its own.
    | some ("List", some j) =>
      match level with
      | 0 => none
      | level + 1 => ((elements? j).bind fun items => items.mapM (value? level)).map .list
    | some ("Object", some j) => object? level j
    | _ => none

end Decode

end AnnotationGuards
