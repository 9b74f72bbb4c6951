import AnnotationGuards.Program.Member
import AnnotationGuards.Program.Value

/-! # Handlers

A guard handler class brings its own code: constructors, which build a handler
from what the engine injects, and tests, which judge one value each. The code is
arbitrary: a handler holds it as functions, over a type `σ` of handler states
that the library never looks into. Each run of handler code is recorded as a
`Call`, so that what ran, and in which order, is part of an answer.
-/

namespace AnnotationGuards

/-- What a constructor parameter receives. -/
inductive Injected where
  /-- The guard annotation that is being applied. -/
  | applied (a : Annotation)
  /-- The type of the target as declared, with its arguments. -/
  | typeToken (t : GenericType)
  /-- The target's raw class. -/
  | rawClass (t : TypeId)
  deriving Inhabited

namespace Injected

def asAnnotation? : Injected → Option Annotation
  | .applied a => some a
  | _ => none

def asTypeToken? : Injected → Option GenericType
  | .typeToken t => some t
  | _ => none

def asRawClass? : Injected → Option TypeId
  | .rawClass t => some t
  | _ => none

end Injected

/-- What code that panics leaves behind. -/
inductive Panic where
  | text (message : String)
  /-- Something that is not a text. -/
  | other
  deriving DecidableEq, Repr, Inhabited

namespace Panic

/-- The text left behind, if it is one. -/
def text? : Panic → Option String
  | .text message => some message
  | .other => none

/-- The reason given for a construction that panicked. -/
def reason (p : Panic) : String :=
  "panicked: " ++ p.text?.getD "unknown panic payload"

end Panic

/-- The name under which the runs of a piece of handler code are recorded. -/
inductive Label where
  | named (name : String)
  | anonymous
  /-- Runs are of no interest to a reader of the record. -/
  | silent
  deriving DecidableEq, Repr, Inhabited

/-- A handler constructor. -/
structure Constructor (σ : Type) where
  label : Label
  /-- The declared parameter types, in order. -/
  params : List TypeId
  isPublic : Bool
  /-- Marked as the constructor to use. -/
  isDesignated : Bool
  /-- The constructor's code: it yields a state, fails with a text, or panics. -/
  build : List Injected → Except Panic (Except String σ)

/-- A test of a handler: one parameter, and a verdict on each value. -/
structure Test (σ : Type) where
  label : Label
  param : TypeId
  /-- The test's code, which panics or decides; there is none for states that the
  test was not declared for. -/
  run? : σ → Option (Value → Except Panic Bool)

/-- The constructors and tests of a handler class. -/
structure Handler (σ : Type) where
  constructors : List (Constructor σ) := []
  tests : List (Test σ) := []

instance : Inhabited (Handler σ) := ⟨{}⟩

/-- One run of handler code. -/
inductive Call where
  | built (label : Label) (arguments : List Injected)
  | tested (label : Label) (argument : Value)
  deriving Inhabited

/-- The label of the code that ran. -/
def Call.label : Call → Label
  | .built label _ => label
  | .tested label _ => label

/-- Runs a constructor, recording the run. -/
def Constructor.run (c : Constructor σ) (arguments : List Injected) :
    Except Panic (Except String σ) × List Call :=
  (c.build arguments, [.built c.label arguments])

end AnnotationGuards
