import AnnotationGuards.Decimal.Shortest

/-! # Floating-point formats

The binary interchange formats of 64 and 32 bits: how the bits of a number give
its sign and its value.
-/

namespace AnnotationGuards.Decimal

/-- What the bits of a floating-point number stand for. -/
inductive FloatClass where
  | nan
  | infinite (negative : Bool)
  | zero (negative : Bool)
  | finite (negative : Bool) (magnitude : Binary)
  deriving DecidableEq, Repr

/-- A binary interchange format, given by the widths of its two fields. -/
structure FloatFormat where
  exponentBits : Nat
  fractionBits : Nat
  deriving DecidableEq, Repr

namespace FloatFormat

/-- The format of 64 bits. -/
def double : FloatFormat := ⟨11, 52⟩

/-- The format of 32 bits. -/
def single : FloatFormat := ⟨8, 23⟩

/-- Reads the bits of a number of this format. A zero exponent field leaves out
the leading one of the mantissa; the largest one is for infinities and NaNs. -/
def decode (f : FloatFormat) (bits : Nat) : FloatClass :=
  let fraction := bits % twoTo f.fractionBits
  let field := bits / twoTo f.fractionBits % twoTo f.exponentBits
  let negative := bits / twoTo (f.fractionBits + f.exponentBits) % 2 == 1
  -- The exponent of the last bit of the smallest numbers.
  let least : Int := 2 - twoTo (f.exponentBits - 1) - f.fractionBits
  if field = twoTo f.exponentBits - 1 then
    if fraction = 0 then .infinite negative else .nan
  else if field = 0 then
    if fraction = 0 then .zero negative else .finite negative ⟨fraction, least, false⟩
  else
    .finite negative
      ⟨twoTo f.fractionBits + fraction, least + field - 1, fraction == 0 && field != 1⟩

end FloatFormat

/-- What a double stands for. -/
def classify64 (x : Float) : FloatClass := FloatFormat.double.decode x.toBits.toNat

/-- What a float stands for. -/
def classify32 (x : Float32) : FloatClass := FloatFormat.single.decode x.toBits.toNat

end AnnotationGuards.Decimal
