import AnnotationGuards.Guard.Error
import AnnotationGuards.Registry.Naming
import AnnotationGuards.Registry.Subtyping

/-! # Matching a test to a target

Which test of a handler judges the values of a target, by the target's static
type alone:

1. A reference target takes the most specific test whose parameter type it is
   assignable to.
2. A primitive target takes the test for its own type, or else for the nearest
   type that it widens to.
3. A wrapper target for which step 1 finds nothing is unboxed and goes on with
   step 2, unless the guard tests null: a null cannot be unboxed.

A tie is never broken: it is an error.
-/

namespace AnnotationGuards

/-- The outcome of a choice among candidates. -/
inductive Choice (α : Type u) where
  | nothing
  | unique (a : α)
  /-- Several candidates are equally good. -/
  | tied (candidates : List α)

/-- The only element of a list; the list itself when there are several. -/
def Choice.ofList : List α → Choice α
  | [] => .nothing
  | [a] => .unique a
  | candidates => .tied candidates

/-- A test matched to a target. -/
structure MatchedTest (σ : Type) where
  test : Test σ
  /-- The primitive to which values are widened first; nothing if they are passed
  as they are. -/
  widenTo : Option Primitive

namespace MatchedTest

variable {σ : Type}

/-! ## Choosing -/

/-- The tests with a reference parameter to which the type is assignable. -/
def applicable (r : Registry σ) (tests : List (Test σ)) (t : TypeId) : List (Test σ) :=
  tests.filter fun m => (r.primitive? m.param).isNone && r.isAssignable t m.param

/-- The tests of a list whose parameter is assignable to that of every test in it. -/
def leastOf (r : Registry σ) (tests : List (Test σ)) : List (Test σ) :=
  tests.filter fun m => tests.all fun o => r.isAssignable m.param o.param

/-- The most specific test for a reference type. Without one, all applicable tests
are tied. -/
def mostSpecific (r : Registry σ) (tests : List (Test σ)) (t : TypeId) :
    Choice (MatchedTest σ) :=
  let candidates := (applicable r tests t).map (MatchedTest.mk · none)
  match leastOf r (applicable r tests t) with
  | [] => if candidates.isEmpty then .nothing else .tied candidates
  | least => .ofList (least.map (MatchedTest.mk · none))

/-- The test for the first of the primitives that has one, where `source` itself
needs no widening. -/
def alongChain (tests : List (Test σ)) (source : Primitive) : List Primitive →
    Choice (MatchedTest σ)
  | [] => .nothing
  | step :: rest =>
    let widenTo := if step = source then none else some step
    match tests.filter fun m => m.param = step.typeId with
    | [] => alongChain tests source rest
    | found => .ofList (found.map (MatchedTest.mk · widenTo))

/-- The test for the nearest type in the widening chain of a primitive. -/
def nearest (tests : List (Test σ)) (p : Primitive) : Choice (MatchedTest σ) :=
  alongChain tests p p.chain

/-- The test for a static type. -/
def choose (r : Registry σ) (tests : List (Test σ)) (testsNull : Bool) (t : TypeId) :
    Choice (MatchedTest σ) :=
  match r.primitive? t with
  | some p => nearest tests p
  | none =>
    match mostSpecific r tests t with
    | .nothing =>
      -- A null cannot be unboxed, so a guard that tests null stays with references.
      if testsNull then .nothing
      else
        match r.unboxed? t with
        | some p => nearest tests p
        | none => .nothing
    | found => found

/-- The test of the handler class `h` for targets of type `target`, on behalf of the
guard of that name. -/
def find (r : Registry σ) (guard : String) (testsNull : Bool) (h : TypeId) (target : GenericType) :
    Except GuardError (MatchedTest σ) :=
  match r.handler? h with
  | none => .error (.notAHandler guard (r.qualifiedName h))
  | some handler =>
    match choose r handler.tests testsNull target.raw with
    | .unique found => .ok found
    | .nothing => .error (.noTest guard (r.qualifiedName h) (r.renderType target))
    | .tied candidates =>
      .error (.ambiguousTest guard (r.qualifiedName h) (r.renderType target)
        (candidates.map fun m => "test(" ++ r.simpleName m.test.param ++ ")"))

/-! ## Running -/

/-- The value as the test receives it. A null is passed as it is. -/
def argument (m : MatchedTest σ) (v : Value) : Except String Value :=
  match m.widenTo with
  | none => .ok v
  | some p =>
    -- There is nothing to widen in a null.
    if v.isNull then .ok v
    else
      match v.widen? p with
      | some widened => .ok widened
      | none => .error ("cannot widen " ++ v.typeName ++ " value to " ++ p.name)

/-- Runs the test of a handler in some state on a value. It cannot run on a value
that does not widen, or in a state that it was not declared for. -/
def run (m : MatchedTest σ) (state : σ) (v : Value) :
    Except Panic (Except String Bool) × List Call :=
  match m.argument v with
  | .error message => (.ok (.error message), [])
  | .ok argument =>
    match m.test.run? state with
    | none => (.ok (.error "handler instance does not match its test method"), [])
    | some code => ((code argument).map .ok, [.tested m.test.label argument])

end MatchedTest

end AnnotationGuards
