import AnnotationGuards.Decimal.Notation

/-! # Numbers in JSON

The number literals of JSON, as they are written. A literal without fraction and
exponent is an integer; a minus sign in front of a zero makes it a floating-point
zero. The value of any other literal is computed in floating point from as many
of its digits as 64 bits hold.

## Contents

- `Number`: a literal, and `Number.text`
- `Number.asInteger?`, `Number.asDouble?`, `Number.asSingle?`: what it stands for
- `Number.ofInteger`, `Number.ofDouble?`, `Number.ofSingle?`: how numbers are written
-/

namespace AnnotationGuards.Json

/-- A number literal. -/
structure Number where
  negative : Bool
  whole : Nat
  /-- The digits after the point; a literal without a point has none. -/
  fraction : List Nat
  exponent : Option Int
  deriving DecidableEq, Repr, Inhabited

namespace Number

/-- The literal as it is written. -/
def text (n : Number) : String :=
  Decimal.sign n.negative ++ toString n.whole ++
    (if n.fraction.isEmpty then "" else "." ++ Decimal.digitText n.fraction) ++
    (match n.exponent with
     | some e => "e" ++ toString e
     | none => "")

/-! ## Integers -/

/-- The literal of an integer. -/
def ofInteger (i : Int) : Number := ⟨i < 0, i.natAbs, [], none⟩

/-- The integer that a literal stands for, if it is one: it has neither fraction nor
exponent, is no negative zero, and fits in 64 bits with or without a sign. -/
def asInteger? (n : Number) : Option Int :=
  if n.fraction ≠ [] ∨ n.exponent ≠ none then none
  else if n.negative then
    if 0 < n.whole ∧ n.whole ≤ 9223372036854775808 then some (-n.whole) else none
  else if n.whole < UInt64.size then some n.whole else none

/-! ## Reading floating-point numbers -/

/-- Takes up digits as long as the significand stays below `2 ^ 64`. Yields the
significand, the number of digits taken, and the number of digits left. -/
def takeDigits (significand taken : Nat) : List Nat → Nat × Nat × Nat
  | [] => (significand, taken, 0)
  | d :: rest =>
    if 10 * significand + d < UInt64.size then takeDigits (10 * significand + d) (taken + 1) rest
    else (significand, taken, rest.length + 1)

/-- Ten to the power `n`, rounded to a double. -/
def powerOfTen (n : Nat) : Float := Float.ofScientific 1 false n

/-- The number `x * 10 ^ exponent`, computed with at most one factor of each size:
beyond the range of doubles it is divided step by step. Too large a number is none. -/
def scale (x : Float) (exponent : Int) : Nat → Option Float
  | 0 => some x
  | steps + 1 =>
    if exponent.natAbs ≤ 308 then
      if 0 ≤ exponent then
        let y := x * powerOfTen exponent.natAbs
        if y.isInf then none else some y
      else some (x / powerOfTen exponent.natAbs)
    -- Zero stays zero, however large the exponent is.
    else if x == 0 then some x
    else if 0 ≤ exponent then none
    else scale (x / powerOfTen 308) (exponent + 308) steps

/-- The magnitude of a literal that is no integer. Digits of the whole part that are
not taken up raise the exponent; those of the fraction are dropped. Three divisions
take every significand to zero. -/
def magnitude? (n : Number) : Option Float :=
  let wholeDigits := (Nat.toDigits 10 n.whole).map fun c => c.toNat - '0'.toNat
  -- What is left of the whole part counts by its length alone.
  let (high, _, left) := takeDigits 0 0 wholeDigits
  let (significand, taken, _) := takeDigits high 0 n.fraction
  scale (UInt64.ofNat significand).toFloat (left - taken + n.exponent.getD 0) 4

/-- A double with a sign. -/
def signed (negative : Bool) (x : Float) : Float := if negative then -x else x

/-- The double that a literal stands for. An integer is rounded as a whole. -/
def asDouble? (n : Number) : Option Float :=
  match n.asInteger? with
  | some i =>
    some (if i < 0 then (Int64.ofInt i).toFloat else (UInt64.ofNat i.toNat).toFloat)
  | none => n.magnitude?.map (signed n.negative)

/-- The float that a literal stands for. An integer is rounded once; any other
literal is rounded to a double first. -/
def asSingle? (n : Number) : Option Float32 :=
  match n.asInteger? with
  | some i =>
    some (if i < 0 then (Int64.ofInt i).toFloat32 else (UInt64.ofNat i.toNat).toFloat32)
  | none => n.asDouble?.map Float.toFloat32

/-! ## Writing floating-point numbers -/

/-- The magnitudes that are written without an exponent: those with more than
`least` and at most `most` digits before the point, where zeros right after the
point count below zero. -/
structure PointRange where
  least : Int
  most : Int
  deriving DecidableEq, Repr

/-- Doubles keep their point from `0.00001` up to sixteen whole digits. -/
def PointRange.double : PointRange := ⟨-5, 16⟩

/-- Floats keep their point from `0.000001` up to thirteen whole digits. -/
def PointRange.single : PointRange := ⟨-6, 13⟩

/-- The literal around the point; a whole number gets a zero after it. -/
def positional (negative : Bool) (d : Decimal.Scaled) : Number :=
  ⟨negative, d.whole, if d.fraction.isEmpty then [0] else d.fraction, none⟩

/-- The literal with one digit before the point and an exponent. -/
def scientific (negative : Bool) (d : Decimal.Scaled) : Number :=
  let tail := d.length - 1
  ⟨negative, d.significand / Decimal.tenTo tail, Decimal.lastDigits tail d.significand,
    some (d.exponent + tail)⟩

/-- The literal of a finite number, with its shortest digits. A tie goes to the even
digit. -/
def ofClass? (range : PointRange) : Decimal.FloatClass → Option Number
  | .nan | .infinite _ => none
  | .zero negative => some ⟨negative, 0, [0], none⟩
  | .finite negative x =>
    let d := Decimal.shortest .toEven x
    let position := d.length + d.exponent
    some (if range.least < position ∧ position ≤ range.most then positional negative d
      else scientific negative d)

/-- The literal of a finite double. -/
def ofDouble? (x : Float) : Option Number := ofClass? .double (Decimal.classify64 x)

/-- The literal of a finite float. -/
def ofSingle? (x : Float32) : Option Number := ofClass? .single (Decimal.classify32 x)

end Number

end AnnotationGuards.Json
