/-! # Numerals

Decimal numerals of natural numbers: reading a row of digits.
-/

namespace AnnotationGuards.Text

/-- The value of an ASCII digit. -/
def digitValue? (c : Char) : Option Nat :=
  if '0' ≤ c ∧ c ≤ '9' then some (c.toNat - '0'.toNat) else none

/-- The number that a row of digits writes after the number `high`. -/
def readDigits? (high : Nat) : List Char → Option Nat
  | [] => some high
  | c :: rest =>
    match digitValue? c with
    | some d => readDigits? (10 * high + d) rest
    | none => none

/-- The number that a numeral writes: one or more digits and nothing else. -/
def readNatural? (cs : List Char) : Option Nat :=
  if cs.isEmpty then none else readDigits? 0 cs

/-- The number that a numeral writes, where a plus sign may come first. -/
def readSigned? : List Char → Option Nat
  | '+' :: rest => readNatural? rest
  | cs => readNatural? cs

end AnnotationGuards.Text
