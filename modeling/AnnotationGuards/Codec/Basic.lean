import AnnotationGuards.Json.Basic
import AnnotationGuards.Program.Slot
import AnnotationGuards.Program.TypeId

/-! # Data forms

How the parts of the data model are written as JSON. A record is an object with a
field for each component, or an array of the components in order. A choice is an
object whose single field names the alternative and holds its content; an
alternative without content may be written as its name alone.

A decoder takes the number of nesting levels that the text may still open. Only
what is decoded counts: fields that no component asks for may hold anything.

## Contents

- `levels`: how deep a data text may nest
- `Decode.record?`, `Decode.elements?`, `Decode.alternative?`: the shared shapes
- decoders and encoders of numbers, strings, types and slots
-/

namespace AnnotationGuards

namespace Decode

/-- How many levels of arrays and objects a data text may open inside each other. -/
def levels : Nat := 127

/-! ## Shapes -/

/-- The values of the fields called `name`. -/
def fieldsNamed (name : String) (fields : List (Option String × Json)) : List Json :=
  (fields.filter fun field => field.1 = some name).map Prod.snd

/-- The value of the field called `name`, if there is one. To have two is an error. -/
def field? (fields : List (Option String × Json)) (name : String) : Option (Option Json) :=
  match fieldsNamed name fields with
  | [] => some none
  | [j] => some (some j)
  | _ => none

/-- The components of a record, in the order of `names`; a component may be missing.
Every field of the object needs a proper name, and an array holds no more than the
components. -/
def record? (names : List String) : Json → Option (List (Option Json))
  | .object fields =>
    if fields.all fun field => field.1.isSome then names.mapM (field? fields) else none
  | .array items =>
    if items.length ≤ names.length then
      some (items.map some ++ List.replicate (names.length - items.length) none)
    else none
  | _ => none

/-- The components of a record none of which is missing. -/
def fullRecord? (names : List String) (j : Json) : Option (List Json) :=
  (record? names j).bind fun components => components.mapM id

/-- The elements of an array. -/
def elements? : Json → Option (List Json)
  | .array items => some items
  | _ => none

/-- The alternative that a choice names, and its content if it is written with one. -/
def alternative? : Json → Option (String × Option Json)
  | .string (some name) => some (name, none)
  | .object [(some name, content)] => some (name, some content)
  | _ => none

/-- Decodes the elements of an array, which opens one level. -/
def listOf (item : Nat → Json → Option α) : Nat → Json → Option (List α)
  | 0, _ => none
  | level + 1, j => (elements? j).bind fun items => items.mapM (item level)

/-- A choice among alternatives without content. With its name in an object it opens
one level. -/
def name? (level : Nat) (j : Json) : Option String :=
  match alternative? j with
  | some (name, none) => some name
  | some (name, some .null) => if level = 0 then none else some name
  | _ => none

/-! ## Atoms -/

def bool? : Json → Option Bool
  | .bool b => some b
  | _ => none

def string? : Json → Option String
  | .string text => text
  | _ => none

/-- An integer from `least` to `most`. -/
def integer? (least most : Int) : Json → Option Int
  | .number n => n.asInteger?.filter fun i => least ≤ i ∧ i ≤ most
  | _ => none

def double? : Json → Option Float
  | .number n => n.asDouble?
  | _ => none

def single? : Json → Option Float32
  | .number n => n.asSingle?
  | _ => none

/-- A string of exactly one character. -/
def char? (j : Json) : Option Char :=
  match (string? j).map String.toList with
  | some [c] => some c
  | _ => none

/-- A type is written as its number. -/
def typeId? (j : Json) : Option TypeId :=
  (integer? 0 4294967295 j).map fun i => TypeId.ofNat i.toNat

/-- A slot: a parameter with its index, or the returned value. -/
def slot? (level : Nat) (j : Json) : Option Slot :=
  match alternative? j with
  | some ("Param", some content) =>
    if level = 0 then none
    else (integer? 0 65535 content).map fun i => .param (UInt16.ofNat i.toNat)
  | some ("Return", _) => (name? level j).map fun _ => .returned
  | _ => none

end Decode

namespace Encode

/-- An alternative with content. -/
def alternative (name : String) (content : Json) : Json := .record [(name, content)]

/-- A type is written as its number. -/
def typeId (t : TypeId) : Json := .int t.toNat

/-- A double as data; one that is not finite has no number and is null. -/
def double (x : Float) : Json := ((Json.Number.ofDouble? x).map .number).getD .null

/-- A float as data; one that is not finite has no number and is null. -/
def single (x : Float32) : Json := ((Json.Number.ofSingle? x).map .number).getD .null

/-- A slot as data. -/
def slot : Slot → Json
  | .param i => alternative "Param" (.int i.toNat)
  | .returned => .str "Return"

end Encode

end AnnotationGuards
