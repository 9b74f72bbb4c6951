import AnnotationGuards.Guard.Error
import AnnotationGuards.Registry.Basic

/-! # Building handlers

How the engine builds a handler: which constructor it uses, what each of its
parameters receives, and what becomes of a constructor that fails. The choice
and the wiring are worked out once for each handler class, before any value is
checked.
-/

namespace AnnotationGuards

/-- What a constructor parameter is to receive. -/
inductive Injection where
  /-- The guard annotation, which must be of this type. -/
  | applied (type : TypeId)
  | typeToken
  | rawClass
  deriving DecidableEq, Repr

/-- A handler class with the constructor to use and its wiring. -/
structure Instantiator (σ : Type) where
  handlerType : TypeId
  /-- The qualified name of the handler class. -/
  handlerName : String
  constructor : Constructor σ
  /-- What each parameter receives, in order. -/
  wiring : List Injection

namespace Instantiator

variable {σ : Type}

/-! ## Choice and wiring -/

/-- The only public constructor, or else the only designated one. -/
def chooseConstructor (name : String) (constructors : List (Constructor σ)) :
    Except GuardError (Constructor σ) :=
  match constructors.filter (·.isPublic), constructors.filter (·.isDesignated) with
  | [only], _ => .ok only
  | _, [only] => .ok only
  | _, [] => .error (.noSuitableConstructor name)
  | _, many => .error (.multipleDesignated name many.length)

/-- What a parameter of this type receives, if anything. -/
def injectionFor? (r : Registry σ) (t : TypeId) : Option Injection :=
  if t = .typeToken then some .typeToken
  else if t = .rawClass then some .rawClass
  else if r.isAnnotation t then some (.applied t)
  else none

/-- The wiring of the parameters from position `index` on. -/
def wireFrom (r : Registry σ) (name : String) (index : Nat) :
    List TypeId → Except GuardError (List Injection)
  | [] => .ok []
  | t :: rest =>
    match injectionFor? r t with
    | none => .error (.unsupportedParameter name index (r.qualifiedName t))
    | some injection => (injection :: ·) <$> wireFrom r name (index + 1) rest

/-- Chooses and wires the constructor of a handler class. -/
def make (r : Registry σ) (h : TypeId) : Except GuardError (Instantiator σ) := do
  let name := r.qualifiedName h
  match r.handler? h with
  | none => .error (.handlerNotImplemented name)
  | some handler =>
    let constructor ← chooseConstructor name handler.constructors
    let wiring ← wireFrom r name 0 constructor.params
    pure { handlerType := h, handlerName := name, constructor, wiring }

/-! ## Construction -/

/-- The arguments for an annotation on a target of type `target`. The first
parameter for an annotation of another type is an error. -/
def arguments (r : Registry σ) (name : String) (a : Annotation) (target : GenericType) :
    List Injection → Except GuardError (List Injected)
  | [] => .ok []
  | .applied expected :: rest =>
    if expected = a.type then (.applied a :: ·) <$> arguments r name a target rest
    else .error (.annotationMismatch name (r.qualifiedName expected) (r.qualifiedName a.type))
  | .typeToken :: rest => (.typeToken target :: ·) <$> arguments r name a target rest
  | .rawClass :: rest => (.rawClass target.raw :: ·) <$> arguments r name a target rest

/-- What comes of a constructor's run. A panic is let through or, when panics are
contained, counts as a failure. -/
def settle (name : String) (contain : Bool) :
    Except Panic (Except String σ) → Except Panic (Except GuardError σ)
  | .ok (.ok state) => .ok (.ok state)
  | .ok (.error reason) => .ok (.error (.construction name reason))
  | .error payload =>
    if contain then .ok (.error (.construction name payload.reason)) else .error payload

/-- Builds a handler for an annotation on a target of type `target`. -/
def instantiate (r : Registry σ) (i : Instantiator σ) (a : Annotation) (target : GenericType)
    (contain : Bool) : Except Panic (Except GuardError σ) × List Call :=
  match arguments r i.handlerName a target i.wiring with
  | .error e => (.ok (.error e), [])
  | .ok injected =>
    let (built, calls) := i.constructor.run injected
    (settle i.handlerName contain built, calls)

end Instantiator

/-- The handler classes that have been wired, errors included. -/
abbrev InstantiatorTable (σ : Type) := Entries TypeId (Except GuardError (Instantiator σ))

namespace InstantiatorTable

variable {σ : Type}

/-- The wired handler class, and the table in which it stands from now on. -/
def get (r : Registry σ) (table : InstantiatorTable σ) (h : TypeId) :
    Except GuardError (Instantiator σ) × InstantiatorTable σ :=
  match Entries.get? table h with
  | some result => (result, table)
  | none => (Instantiator.make r h, Entries.put table h (Instantiator.make r h))

end InstantiatorTable

end AnnotationGuards
