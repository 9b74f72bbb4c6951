import AnnotationGuards.Chain.Target
import AnnotationGuards.Handler.Matching

/-! # Guard instances and their chains

A guard instance is one guard at work on one target: a handler that has been
built, and the test of it that judges the target's values. The instances of a
slot form a chain. A check runs them in order and ends with the first one that
does not pass.

## Contents

- `GuardInstance.violation`: the report of a value that breaks a guard
- `GuardInstance.check`: one instance on one value
- `runChain`: a chain on one value
-/

namespace AnnotationGuards

/-- One guard at work on one target. -/
structure GuardInstance (σ : Type) where
  target : Target
  annotation : Annotation
  /-- The annotations from the use site down to this guard. -/
  path : List String
  /-- The target as messages name it. -/
  description : String
  /-- The guard's own message. -/
  message : String
  test : MatchedTest σ
  /-- The state of the handler that was built for this instance. -/
  handler : σ
  /-- Null values pass this guard unseen. -/
  skipsNull : Bool
  maxValueLength : UInt64

/-- What a check comes to: it passes, or says why not. -/
abbrev CheckResult := Except CheckError Unit

namespace GuardInstance

variable {σ : Type}

/-! ## Reports -/

/-- What is shown in place of a value that must not be shown. -/
def concealed : String := "(concealed)"

/-- A text cut after `most` characters, with three dots for what is left out. -/
def truncate (text : String) (most : Nat) : String :=
  if text.length ≤ most then text else String.ofList (text.toList.take most) ++ "..."

/-- The value as a report shows it. -/
def showValue (sensitive : Bool) (maxValueLength : UInt64) (v : Value) : String :=
  if sensitive then concealed
  else if v.isNull then "null"
  else v.typeName ++ " " ++ truncate v.text maxValueLength.toNat

/-- The report of a value that breaks the guard. -/
def violation (g : GuardInstance σ) (v : Value) : Violation :=
  let shown := showValue g.target.sensitive g.maxValueLength v
  { message := g.description ++ " violated " ++ " -> ".intercalate g.path ++ ": " ++ g.message ++
      "; got " ++ shown
    guardMessage := g.message
    target := g.description
    chain := g.path
    value := shown }

/-! ## Checks -/

/-- What the verdict of the guard's test comes to. -/
def settle (g : GuardInstance σ) (v : Value) : Except String Bool → CheckResult
  | .ok true => .ok ()
  | .ok false => .error (.violation (g.violation v))
  | .error message => .error (.internal (g.description ++ ": " ++ message))

/-- Checks a value against one guard. -/
def check (g : GuardInstance σ) (v : Value) : Except Panic CheckResult × List Call :=
  if g.skipsNull && v.isNull then (.ok (.ok ()), [])
  else
    let (verdict, calls) := g.test.run g.handler v
    (verdict.map (g.settle v), calls)

end GuardInstance

/-- Checks a value against the guards of a chain, in order, up to the first one that
does not pass. -/
def runChain (chain : List (GuardInstance σ)) (v : Value) : Except Panic CheckResult × List Call :=
  match chain with
  | [] => (.ok (.ok ()), [])
  | g :: rest =>
    match g.check v with
    | (.ok (.ok ()), calls) =>
      let (result, later) := runChain rest v
      (result, calls ++ later)
    | stopped => stopped

end AnnotationGuards
