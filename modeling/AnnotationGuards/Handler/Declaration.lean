import AnnotationGuards.Handler.Basic

/-! # Declaring handlers

A handler class is declared part by part: its constructors, the mark of the
designated one, and its tests. The declaration is typed. What its constructors
build and its tests judge by is of one type `H`, and the handler holds it as a
state like any other: a constructor's result is put in, and a test takes it out
again. A test has no code for the states of other classes.
-/

namespace AnnotationGuards

/-- How the states of one handler class stand among all handler states. -/
structure StateKind (σ H : Type) where
  put : H → σ
  /-- The state taken out again, if it is one of this class. -/
  get? : σ → Option H
  get?_put : ∀ h, get? (put h) = some h

namespace StateKind

variable {σ H : Type}

/-- A constructor of the class. -/
def constructor (kind : StateKind σ H) (label : Label) (params : List TypeId) (isPublic : Bool)
    (build : List Injected → Except Panic (Except String H)) : Constructor σ where
  label := label
  params := params
  isPublic := isPublic
  isDesignated := false
  build := fun arguments => (build arguments).map (·.map kind.put)

/-- A test of the class. -/
def test (kind : StateKind σ H) (label : Label) (param : TypeId)
    (code : H → Value → Except Panic Bool) : Test σ where
  label := label
  param := param
  run? := fun state => (kind.get? state).map code

end StateKind

/-- One part of the declaration of a handler class with states of type `H`. -/
inductive HandlerPart (H : Type) where
  | constructor (label : Label) (params : List TypeId) (isPublic : Bool)
    (build : List Injected → Except Panic (Except String H))
  /-- Marks the constructor declared last as the designated one. -/
  | designated
  | test (label : Label) (param : TypeId) (code : H → Value → Except Panic Bool)

namespace Handler

variable {σ H : Type}

/-- The constructors with the last one marked as designated. -/
def designateLast : List (Constructor σ) → List (Constructor σ)
  | [] => []
  | [c] => [{ c with isDesignated := true }]
  | c :: rest => c :: designateLast rest

/-- The handler with one more part. -/
def add (kind : StateKind σ H) (handler : Handler σ) : HandlerPart H → Handler σ
  | .constructor label params isPublic build =>
    { handler with
      constructors := handler.constructors ++ [kind.constructor label params isPublic build] }
  | .designated => { handler with constructors := designateLast handler.constructors }
  | .test label param code =>
    { handler with tests := handler.tests ++ [kind.test label param code] }

/-- The handler that the parts declare, in order. -/
def declare (kind : StateKind σ H) (parts : List (HandlerPart H)) : Handler σ :=
  parts.foldl (add kind) {}

end Handler

end AnnotationGuards
