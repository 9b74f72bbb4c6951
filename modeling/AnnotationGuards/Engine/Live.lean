import AnnotationGuards.Chain.Scan
import AnnotationGuards.Guard.Definition
import AnnotationGuards.Handler.Wiring
import AnnotationGuards.Registry.Changes

/-! # Engines on a living registry

The parts of an engine can be used one by one, outside a realm: a classifier, the
definitions with the classifier behind them, the wired handler classes and the scans.
The registry is not frozen then, and it may change between two questions, as may the
configuration. A part answers from the registry as it stands when the question comes
up first, and keeps the answer.

## Contents

- `LiveEngine`: the parts of an engine beside a registry that may change
- `EngineQuery`, `EngineAnswer`: what the parts are asked, and what they answer
- `LiveEngine.ask`: the answer, and the engine after it; `LiveEngine.known?`: the
  answer that is kept already
- `EngineStep`, `LiveEngine.after`, `LiveEngine.answers`: changes and questions in any
  order
-/

namespace AnnotationGuards

/-- The parts of an engine, each with the answers that it keeps, and the registry and
the configuration as they stand. -/
structure LiveEngine (σ : Type) where
  registry : Registry σ := .initial
  config : GuardConfig := {}
  /-- The verdicts of a classifier that is used by itself. -/
  verdicts : VerdictTable := []
  definitions : DefinitionTable := {}
  instantiators : InstantiatorTable σ := []
  scans : ScanTable := []

/-- A question to a part of an engine. -/
inductive EngineQuery where
  /-- Whether a type is a guard, to the classifier that is used by itself. -/
  | verdict (t : TypeId)
  /-- Whether a type is a guard, to the classifier behind the definitions, which the
  scans ask as well. -/
  | verdictBehind (t : TypeId)
  | definition (t : TypeId)
  | instantiator (h : TypeId)
  | scan (t : TypeId)
  deriving DecidableEq, Repr

/-- An answer of a part of an engine. -/
inductive EngineAnswer (σ : Type) where
  | verdict (v : Verdict)
  | definition (d : DefinitionResult)
  | instantiator (i : Except GuardError (Instantiator σ))
  | scan (s : Except CheckError ScannedClass)

/-- What can happen to an engine and its registry. -/
inductive EngineStep (σ : Type) where
  | change (c : RegistryChange σ)
  | configure (config : GuardConfig)
  | ask (q : EngineQuery)

namespace LiveEngine

variable {σ : Type}

/-- The answer to a question, and the engine in which it is kept from now on. -/
def ask (e : LiveEngine σ) : EngineQuery → EngineAnswer σ × LiveEngine σ
  | .verdict t =>
    let (verdict, verdicts) := VerdictTable.isGuard e.registry e.verdicts t
    (.verdict verdict, { e with verdicts })
  | .verdictBehind t =>
    let (verdict, definitions) := e.definitions.isGuard e.registry t
    (.verdict verdict, { e with definitions })
  | .definition t =>
    let (result, definitions) := e.definitions.definitionFor e.registry e.config t
    (.definition result, { e with definitions })
  | .instantiator h =>
    let (result, instantiators) := InstantiatorTable.get e.registry e.instantiators h
    (.instantiator result, { e with instantiators })
  | .scan t =>
    let (result, scans, verdicts) := e.scans.guardsFor e.registry e.definitions.verdicts t
    (.scan result, { e with scans, definitions := { e.definitions with verdicts } })

/-- The answer to a question that is kept already. -/
def known? (e : LiveEngine σ) : EngineQuery → Option (EngineAnswer σ)
  | .verdict t => (Entries.get? e.verdicts t).map .verdict
  | .verdictBehind t => (Entries.get? e.definitions.verdicts t).map .verdict
  | .definition t => (Entries.get? e.definitions.definitions t).map .definition
  | .instantiator h => (Entries.get? e.instantiators h).map .instantiator
  | .scan t => (Entries.get? e.scans t).map .scan

/-- The engine after a step. A change that is refused leaves the registry as it is. -/
def next (e : LiveEngine σ) : EngineStep σ → LiveEngine σ
  | .change c => { e with registry := (e.registry.attempt c).2 }
  | .configure config => { e with config }
  | .ask q => (e.ask q).2

/-- The engine after a run of steps. -/
def after (e : LiveEngine σ) : List (EngineStep σ) → LiveEngine σ
  | [] => e
  | step :: rest => (e.next step).after rest

/-- The questions of a run, each with the answer that it got, in order. -/
def answers (e : LiveEngine σ) : List (EngineStep σ) → List (EngineQuery × EngineAnswer σ)
  | [] => []
  | .ask q :: rest => (q, (e.ask q).1) :: (e.ask q).2.answers rest
  | step :: rest => (e.next step).answers rest

end LiveEngine

end AnnotationGuards
