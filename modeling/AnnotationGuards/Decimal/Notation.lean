import AnnotationGuards.Decimal.FloatFormat

/-! # Plain decimal notation

How messages show a floating-point number: with its shortest digits, never with
an exponent, and without a point when the number is whole.
-/

namespace AnnotationGuards.Decimal

/-- The last `count` decimal digits of a number, leading zeros included. -/
def lastDigits (count n : Nat) : List Nat :=
  ((List.range count).map fun i => n / tenTo i % 10).reverse

/-- A row of digits as text. -/
def digitText (digits : List Nat) : String := String.ofList (digits.map Nat.digitChar)

namespace Scaled

/-- The part of the number before the point. -/
def whole (d : Scaled) : Nat :=
  d.significand * tenTo d.exponent.toNat / tenTo (-d.exponent).toNat

/-- The digits after the point; none for a whole number. -/
def fraction (d : Scaled) : List Nat := lastDigits (-d.exponent).toNat d.significand

/-- How many digits the significand has. -/
def length (d : Scaled) : Nat := (Nat.toDigits 10 d.significand).length

/-- The number written out around its point. -/
def positional (d : Scaled) : String :=
  toString d.whole ++ (if d.fraction.isEmpty then "" else "." ++ digitText d.fraction)

end Scaled

/-- The sign in front of a number. -/
def sign (negative : Bool) : String := if negative then "-" else ""

/-- A number as messages show it. A tie goes to the larger digits. -/
def plain : FloatClass → String
  | .nan => "NaN"
  | .infinite negative => sign negative ++ "inf"
  | .zero negative => sign negative ++ "0"
  | .finite negative x => sign negative ++ (shortest .up x).positional

/-- The text of a double in messages. -/
def plain64 (x : Float) : String := plain (classify64 x)

/-- The text of a float in messages. -/
def plain32 (x : Float32) : String := plain (classify32 x)

end AnnotationGuards.Decimal
