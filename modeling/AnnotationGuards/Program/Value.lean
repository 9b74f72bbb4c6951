import AnnotationGuards.Decimal.Notation
import AnnotationGuards.Program.TypeId

/-! # Runtime values

The values that a guarded call site hands to the guards of a slot: scalars of
the eight primitive types, null, text, lists, and any other object by its class
and its string form.

## Contents

- `Value.equals`: equality of values, by the rules of floating point on floats
- `Value.asInteger?`, `Value.asFloat?`: the numeric views of a scalar
- `Value.widen?`: conversion along a widening chain
- `Value.text`, `Value.typeName`: how messages show a value
-/

namespace AnnotationGuards

/-- A value at a call site. -/
inductive Value where
  | null
  | boolean (b : Bool)
  | byte (i : Int8)
  | short (i : Int16)
  | char (c : Char)
  | int (i : Int32)
  | long (i : Int64)
  | float (x : Float32)
  | double (x : Float)
  | str (s : String)
  | list (items : List Value)
  /-- Any other reference: its runtime class and its string form. -/
  | object (type : TypeId) (repr : String)
  deriving Inhabited

namespace Value

/-- Whether the value is null. -/
def isNull : Value → Bool
  | .null => true
  | _ => false

/-- The primitive type of a scalar; nothing for null and references. -/
def primitive? : Value → Option Primitive
  | .boolean _ => some .boolean
  | .byte _ => some .byte
  | .short _ => some .short
  | .char _ => some .char
  | .int _ => some .int
  | .long _ => some .long
  | .float _ => some .float
  | .double _ => some .double
  | .null | .str _ | .list _ | .object _ _ => none

/-- The type of the value as far as the value alone tells it. -/
def runtimeType : Value → TypeId
  | .null => .object
  | .boolean _ => .boolean
  | .byte _ => .byte
  | .short _ => .short
  | .char _ => .char
  | .int _ => .int
  | .long _ => .long
  | .float _ => .float
  | .double _ => .double
  | .str _ => .string
  | .list _ => .list
  | .object type _ => type

/-! ## Equality -/

mutual

/-- Equality of values. Floats compare as numbers: a NaN differs from itself and
the two zeros are equal. -/
def equals : Value → Value → Bool
  | .null, .null => true
  | .boolean a, .boolean b => a == b
  | .byte a, .byte b => a == b
  | .short a, .short b => a == b
  | .char a, .char b => a == b
  | .int a, .int b => a == b
  | .long a, .long b => a == b
  | .float a, .float b => a == b
  | .double a, .double b => a == b
  | .str a, .str b => a == b
  | .list as, .list bs => equalsAll as bs
  | .object s a, .object t b => s == t && a == b
  | _, _ => false

/-- Equality of lists of values, item by item. -/
def equalsAll : List Value → List Value → Bool
  | [], [] => true
  | a :: as, b :: bs => equals a b && equalsAll as bs
  | _, _ => false

end

/-! ## Numeric views -/

/-- An integral scalar as a 64-bit integer; a char is its code point. -/
def asInteger? : Value → Option Int64
  | .byte i => some i.toInt64
  | .short i => some i.toInt64
  | .char c => some (Int64.ofNat c.toNat)
  | .int i => some i.toInt64
  | .long i => some i
  | _ => none

/-- A numeric scalar as a double. An integer is rounded to the nearest one. -/
def asFloat? : Value → Option Float
  | .float x => some x.toFloat
  | .double x => some x
  | v => v.asInteger?.map (·.toFloat)

/-! ## Widening -/

/-- The integer as a short, if it is in range. -/
def short? (i : Int64) : Option Value :=
  if -32768 ≤ i.toInt ∧ i.toInt < 32768 then some (.short i.toInt16) else none

/-- The integer as an int, if it is in range. -/
def int? (i : Int64) : Option Value :=
  if -2147483648 ≤ i.toInt ∧ i.toInt < 2147483648 then some (.int i.toInt32) else none

/-- The scalar converted to the primitive `p`, if its own type is `p` or widens to
it. A float takes its value from the nearest double. -/
def widen? (v : Value) (p : Primitive) : Option Value :=
  match v.primitive? with
  | none => none
  | some source =>
    -- A value of the type itself is passed as it is.
    if source = p then some v
    else if ¬ source.canWiden p then none
    else match p with
      | .short => v.asInteger?.bind short?
      | .int => v.asInteger?.bind int?
      | .long => v.asInteger?.map .long
      | .float => v.asFloat?.map (fun x => .float x.toFloat32)
      | .double => v.asFloat?.map .double
      | .boolean | .byte | .char => none

/-! ## Text -/

/-- The name of the value's type in messages. -/
def typeName (v : Value) : String :=
  match v with
  | .null => "null"
  | .str _ => "String"
  | .list _ => "List"
  | .object _ _ => "Object"
  | .boolean _ => Primitive.boolean.name
  | .byte _ => Primitive.byte.name
  | .short _ => Primitive.short.name
  | .char _ => Primitive.char.name
  | .int _ => Primitive.int.name
  | .long _ => Primitive.long.name
  | .float _ => Primitive.float.name
  | .double _ => Primitive.double.name

mutual

/-- The value as messages show it. -/
def text : Value → String
  | .null => "null"
  | .boolean b => if b then "true" else "false"
  | .byte i => toString i.toInt
  | .short i => toString i.toInt
  | .char c => c.toString
  | .int i => toString i.toInt
  | .long i => toString i.toInt
  | .float x => Decimal.plain32 x
  | .double x => Decimal.plain64 x
  | .str s => s
  | .list items => "[" ++ ", ".intercalate (texts items) ++ "]"
  | .object _ repr => repr

/-- The values of a list as messages show them. -/
def texts : List Value → List String
  | [] => []
  | v :: rest => text v :: texts rest

end

theorem texts_eq_map (items : List Value) : texts items = items.map text := by
  induction items with
  | nil => rfl
  | cons v rest ih => simp [texts, ih]

@[simp] theorem isNull_iff (v : Value) : v.isNull = true ↔ v = .null := by
  cases v <;> simp [isNull]

theorem isNull_of_ne {v : Value} (h : v ≠ .null) : v.isNull = false :=
  Bool.eq_false_iff.mpr (mt v.isNull_iff.mp h)

end Value

end AnnotationGuards
