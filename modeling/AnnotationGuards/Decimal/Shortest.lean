/-! # Shortest decimals

A binary floating-point number stands for every real number that rounds to it.
Its shortest decimal is the one with the fewest digits among those reals, and
of several with as few digits the one nearest to the number itself. Everything
is computed in exact natural arithmetic.
-/

namespace AnnotationGuards.Decimal

/-- The power `2 ^ n`. -/
def twoTo (n : Nat) : Nat := Nat.pow 2 n

/-- The power `10 ^ n`. -/
def tenTo (n : Nat) : Nat := Nat.pow 10 n

/-- The positive binary number `mantissa * 2 ^ exponent`. -/
structure Binary where
  mantissa : Nat
  exponent : Int
  /-- The next smaller number of the format is half a unit away: the mantissa is
  the least of its binade. -/
  narrowBelow : Bool
  deriving DecidableEq, Repr

/-- The decimal number `significand * 10 ^ exponent`. -/
structure Scaled where
  significand : Nat
  exponent : Int
  deriving DecidableEq, Repr

/-- Which of two decimals equally near to a number is taken. -/
inductive Tie where
  /-- The larger one. -/
  | up
  /-- The one with an even last digit. -/
  | toEven
  deriving DecidableEq, Repr

/-- An interval of reals around a value, over one common denominator. -/
structure Interval where
  low : Nat
  value : Nat
  high : Nat
  denominator : Nat
  /-- The two ends belong to the interval. -/
  closed : Bool
  deriving Repr

namespace Binary

/-- The reals that round to `x`: they reach half way to its two neighbours, and
the half-way points belong to `x` when its mantissa is even. -/
def interval (x : Binary) : Interval :=
  -- Quarters of a unit make the half-way points whole numbers.
  let scale := x.exponent - 2
  let unit := twoTo scale.toNat
  { low := (4 * x.mantissa - (if x.narrowBelow then 1 else 2)) * unit
    value := 4 * x.mantissa * unit
    high := (4 * x.mantissa + 2) * unit
    denominator := twoTo (-scale).toNat
    closed := x.mantissa % 2 == 0 }

end Binary

namespace Interval

/-- The interval measured in units of `10 ^ exponent`. -/
def inUnits (i : Interval) (exponent : Int) : Interval :=
  let up := tenTo (-exponent).toNat
  { i with
    low := i.low * up
    value := i.value * up
    high := i.high * up
    denominator := i.denominator * tenTo exponent.toNat }

/-- Whether the whole number `k` lies in the interval. -/
def contains (i : Interval) (k : Nat) : Bool :=
  let at' := k * i.denominator
  if i.closed then i.low ≤ at' && at' ≤ i.high else i.low < at' && at' < i.high

/-- The whole number of the interval that is nearest to its value, if the
interval holds one of the value's two neighbours. -/
def nearest? (tie : Tie) (i : Interval) : Option Nat :=
  let below := i.value / i.denominator
  let rest := i.value % i.denominator
  match i.contains below, i.contains (below + 1) with
  | false, false => none
  | true, false => some below
  | false, true => some (below + 1)
  | true, true =>
    -- Both neighbours read back as the value: the nearer one is taken.
    if 2 * rest < i.denominator then some below
    else if 2 * rest > i.denominator then some (below + 1)
    else match tie with
      | .up => some (below + 1)
      | .toEven => some (if below % 2 == 0 then below else below + 1)

/-- Looks for a decimal in the interval, from the exponent `exponent` downward. -/
def search (tie : Tie) (i : Interval) : Nat → Int → Scaled
  | 0, exponent => ⟨0, exponent⟩
  | fuel + 1, exponent =>
    match (i.inUnits exponent).nearest? tie with
    | some k => ⟨k, exponent⟩
    | none => search tie i fuel (exponent - 1)

end Interval

/-- The shortest decimal that rounds to `x`. The search starts above the leading
digit of `x`, and at the exponent of `x` itself the decimal is exact, so the
search never runs out. -/
def shortest (tie : Tie) (x : Binary) : Scaled :=
  let i := x.interval
  let top := (Nat.toDigits 10 (i.value / i.denominator)).length
  i.search tie (top + (x.exponent - 2).natAbs + 1) top

end AnnotationGuards.Decimal
