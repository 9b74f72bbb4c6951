import AnnotationGuards.Chain.Scan
import AnnotationGuards.Chain.State
import AnnotationGuards.Guard.Definition
import AnnotationGuards.Handler.Wiring
import AnnotationGuards.Message.Rendering

/-! # Linking a slot

Linking turns the annotations of a slot into a chain of guard instances. Every
guard annotation contributes its own check first, if its type carries the marker,
and then the guards that its type is composed of, depth first. The first fault
ends the linking, and the slot is disabled with the text of that fault.

## Contents

- `LinkM`: computations that look up definitions and wired handler classes, run
  constructors and collect instances
- `expand`: what one annotation contributes
- `linkSlot`: the state of a slot after linking
-/

namespace AnnotationGuards

/-- What linking consults. -/
structure LinkContext (σ : Type) where
  registry : Registry σ
  config : GuardConfig

/-- How far a link has come. -/
structure LinkProgress (σ : Type) where
  definitions : DefinitionTable
  instantiators : InstantiatorTable σ
  /-- The handler code that has run. -/
  calls : List Call := []
  /-- The instances of the chain so far. -/
  instances : List (GuardInstance σ) := []

/-- Why a link ends early. -/
inductive LinkFault where
  /-- A guard of the slot cannot be put to work. -/
  | misconfigured (e : GuardError)
  | aborted (a : Abort)
  deriving DecidableEq, Repr

/-- A part of a link: it goes on from where the link has come, and may end it. -/
abbrev LinkM (σ : Type) := ExceptT LinkFault (StateM (LinkProgress σ))

namespace LinkM

variable {σ : Type}

/-- Goes on with an answer, or ends the link with the error in its place. -/
def ofResult : Except GuardError α → LinkM σ α
  | .ok a => pure a
  | .error e => throw (.misconfigured e)

/-- The definition of an annotation type. -/
def definitionOf (c : LinkContext σ) (t : TypeId) : LinkM σ (Option GuardDefinition) := do
  let progress ← get
  let (result, definitions) := progress.definitions.definitionFor c.registry c.config t
  set { progress with definitions }
  ofResult result

/-- The wired handler class. -/
def instantiatorOf (c : LinkContext σ) (h : TypeId) : LinkM σ (Instantiator σ) := do
  let progress ← get
  let (result, instantiators) := InstantiatorTable.get c.registry progress.instantiators h
  set { progress with instantiators }
  ofResult result

/-- Builds a handler, recording the constructor's run. -/
def build (c : LinkContext σ) (i : Instantiator σ) (a : Annotation) (target : GenericType) :
    LinkM σ σ := do
  let (result, calls) := i.instantiate c.registry a target c.config.containPanics
  -- The run is on record even if it ends the link.
  modify fun progress => { progress with calls := progress.calls ++ calls }
  match result with
  | .ok outcome => ofResult outcome
  | .error payload => throw (.aborted (.panicked payload))

/-- Goes on with a text, or ends the link if it has no end. -/
def ofText : Option String → LinkM σ String
  | some text => pure text
  | none => throw (.aborted .endlessText)

/-- Adds an instance to the chain. -/
def push (g : GuardInstance σ) : LinkM σ Unit :=
  modify fun progress => { progress with instances := progress.instances ++ [g] }

end LinkM

namespace Link

variable {σ : Type}

/-- Whether null values pass a guard unseen: unless it tests null, and only where a
null can occur. -/
def skipsNull (r : Registry σ) (marking : Marking) (target : Target) : Bool :=
  !marking.testsNull && (r.primitive? target.staticType).isNone

/-- The message of a guard, if it has an end: its template with the attributes of
the annotation filled in, or without a template the annotation itself. -/
def message? (r : Registry σ) (marking : Marking) (a : Annotation) : Option String :=
  match marking.template with
  | some template => r.renderTemplate? template a
  | none => r.renderAnnotation? a

/-- The instance of a guard, once all its parts are there. -/
def instanceOf (c : LinkContext σ) (target : Target) (path : List String) (a : Annotation)
    (marking : Marking) (test : MatchedTest σ) (handler : σ) (message : String) :
    GuardInstance σ where
  target := target
  annotation := a
  path := path
  description := target.describe c.registry
  message := message
  test := test
  handler := handler
  skipsNull := skipsNull c.registry marking target
  maxValueLength := c.config.maxValueLength

/-- Adds the instance of a guard that carries the marker. Its test is matched first,
then its handler class is wired and built, and its message is rendered last. -/
def addInstance (c : LinkContext σ) (target : Target) (path : List String) (a : Annotation)
    (d : GuardDefinition) (marking : Marking) : LinkM σ Unit := do
  let test ← LinkM.ofResult
    (MatchedTest.find c.registry d.name marking.testsNull marking.handler target.type)
  let instantiator ← LinkM.instantiatorOf c marking.handler
  let handler ← LinkM.build c instantiator a target.type
  let message ← LinkM.ofText (message? c.registry marking a)
  LinkM.push (instanceOf c target path a marking test handler message)

/-- The check that a guard itself contributes; none without a marker. -/
def addOwn (c : LinkContext σ) (target : Target) (path : List String) (a : Annotation)
    (d : GuardDefinition) : LinkM σ Unit :=
  match d.marking with
  | some marking => addInstance c target path a d marking
  | none => pure ()

/-- What an annotation contributes to the chain of a target, `path` being the
annotations above it. Guards are composed without cycles, so the nesting stays
below the number of types, which is what `depth` starts from. -/
def expand (c : LinkContext σ) (target : Target) : Nat → List String → Annotation → LinkM σ Unit
  | 0, _, _ => throw (.aborted .endlessNesting)
  | depth + 1, path, a => do
    match ← LinkM.definitionOf c a.type with
    | none => pure ()
    | some d =>
      -- Guards without a marker stand in the path as well.
      let path := path ++ ["@" ++ c.registry.simpleName a.type]
      addOwn c target path a d
      d.implied.forM (expand c target depth path)

/-- The contributions of all annotations of a slot, in order. -/
def expandAll (c : LinkContext σ) (guards : SlotGuards) : LinkM σ Unit :=
  guards.annotations.forM (expand c guards.target (c.registry.size + 1) [])

end Link

/-! ## The end of a link -/

namespace Link

variable {σ : Type}

/-- What becomes of a slot when its link ends. A panic reaches the caller unless
panics are contained; what has no end always does. -/
def settle (c : LinkContext σ) (chain : List (GuardInstance σ)) :
    Except LinkFault Unit → Except Abort (SlotState σ)
  | .ok () => .ok (.linked chain)
  | .error (.misconfigured e) => .ok (.disabled e.message)
  | .error (.aborted (.panicked payload)) =>
    if c.config.containPanics then .ok (.disabled "panicked while linking")
    else .error (.panicked payload)
  | .error (.aborted endless) => .error endless

/-- Links a slot: its state, and the tables and the record of handler code that the
link leaves behind. -/
def linkSlot (c : LinkContext σ) (definitions : DefinitionTable)
    (instantiators : InstantiatorTable σ) (guards : SlotGuards) :
    Except Abort (SlotState σ) × LinkProgress σ :=
  let (result, progress) := (expandAll c guards).run { definitions, instantiators }
  (settle c progress.instances result, progress)

end Link

end AnnotationGuards
