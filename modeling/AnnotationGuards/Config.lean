import AnnotationGuards.Text.Blank
import AnnotationGuards.Text.Numeral

/-! # Configuration

The settings of a realm, and how they are read from two plain texts such as a
host passes to a process.
-/

namespace AnnotationGuards

/-- The settings of a guard engine. -/
structure GuardConfig where
  /-- Packages searched for handler classes after the guard's own package. -/
  handlerPackages : List String := []
  /-- A panic while a handler is built disables the slot and goes no further. -/
  containPanics : Bool := true
  /-- Longer values are cut in messages after this many characters. -/
  maxValueLength : UInt64 := 200
  deriving DecidableEq, Repr, Inhabited

namespace GuardConfig

/-- The packages in a comma-separated list, without blanks around them. -/
def readPackages (text : String) : List String :=
  (((Text.splitOn ',' text.toList).map Text.trim).filter fun p => !p.isEmpty).map String.ofList

/-- The number in a text, with blanks around it, if 64 bits hold it. -/
def readLength? (text : String) : Option UInt64 :=
  match Text.readSigned? (Text.trim text.toList) with
  | some n => if n < UInt64.size then some (UInt64.ofNat n) else none
  | none => none

/-- The defaults, overridden by the settings that are given. A length that does
not read as a number is passed over. -/
def ofSettings (packages length : Option String) : GuardConfig :=
  let base : GuardConfig := {}
  { base with
    handlerPackages := (packages.map readPackages).getD base.handlerPackages
    maxValueLength := (length.bind readLength?).getD base.maxValueLength }

end GuardConfig

end AnnotationGuards
