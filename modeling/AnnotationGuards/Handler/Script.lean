import AnnotationGuards.Handler.Declaration

/-! # Scripted handlers

A small language of handlers whose code is chosen from a list of rules. A
scripted handler keeps one integer, which its constructor sets and its tests
compare with. A script is a sequence of declarations, read in order.
-/

namespace AnnotationGuards.Script

/-- The state of a scripted handler. -/
inductive State where
  /-- The state of the handler's own class. -/
  | own (n : Int64)
  /-- The state of some other class. -/
  | foreign
  deriving DecidableEq, Repr, Inhabited

/-- What a constructor does. -/
inductive BuildRule where
  /-- Keeps this number. -/
  | constant (n : Int64)
  /-- Keeps the integer written on the injected annotation under this name. -/
  | attribute (name : String)
  /-- Keeps the number of the injected raw class. -/
  | classNumber
  /-- Keeps the number of arguments of the injected type. -/
  | argumentCount
  | fail (message : String)
  | panic (payload : Panic)
  deriving Inhabited

/-- What a test does with a value. -/
inductive TestRule where
  | accept
  | reject
  /-- The value is an integer and not less than the number kept. -/
  | atLeast
  /-- The value is a number and not less than the number kept, as doubles. -/
  | atLeastFloat
  | notNull
  /-- The value is a text or a list and not empty. -/
  | notEmpty
  /-- The value's runtime type is this one. -/
  | hasType (t : TypeId)
  | panic (payload : Panic)
  deriving Inhabited

/-- One declaration of a script. -/
inductive Declaration where
  | constructor (isPublic : Bool) (label : Label) (params : List TypeId) (rule : BuildRule)
  /-- Marks the constructor declared last as the designated one. -/
  | designated
  | test (label : Label) (param : TypeId) (rule : TestRule)
  /-- A test that belongs to another handler class. -/
  | foreignTest (label : Label) (param : TypeId) (rule : TestRule)
  deriving Inhabited

/-! ## Running the rules -/

/-- The first injected annotation. -/
def firstAnnotation? (arguments : List Injected) : Option Annotation :=
  arguments.findSome? Injected.asAnnotation?

/-- The number that a constructor with this rule keeps. -/
def BuildRule.run (rule : BuildRule) (arguments : List Injected) :
    Except Panic (Except String Int64) :=
  let orFail (found : Option Int64) (message : String) : Except Panic (Except String Int64) :=
    .ok (match found with
      | some n => .ok n
      | none => .error message)
  match rule with
  | .constant n => .ok (.ok n)
  | .attribute name =>
    orFail ((firstAnnotation? arguments).bind fun a => (a.get? name).bind AttrValue.asInt?)
      ("missing " ++ name)
  | .classNumber =>
    orFail ((arguments.findSome? Injected.asRawClass?).map fun t => Int64.ofNat t.toNat)
      "no class"
  | .argumentCount =>
    orFail ((arguments.findSome? Injected.asTypeToken?).map fun t =>
      Int64.ofNat t.arguments.length) "no token"
  | .fail message => .ok (.error message)
  | .panic payload => .error payload

/-- The verdict of a test with this rule in a handler that keeps `n`. -/
def TestRule.run (rule : TestRule) (n : Int64) (v : Value) : Except Panic Bool :=
  match rule with
  | .accept => .ok true
  | .reject => .ok false
  | .atLeast => .ok (v.asInteger?.any fun i => n.toInt ≤ i.toInt)
  | .atLeastFloat => .ok (v.asFloat?.any fun x => n.toFloat ≤ x)
  | .notNull => .ok (!v.isNull)
  | .notEmpty =>
    .ok (match v with
      | .str s => !s.isEmpty
      | .list items => !items.isEmpty
      | _ => false)
  | .hasType t => .ok (v.runtimeType = t)
  | .panic payload => .error payload

/-! ## From a script to a handler -/

/-- The states of the handler's own class. -/
def ownKind : StateKind State Int64 where
  put := .own
  get? := fun
    | .own n => some n
    | .foreign => none
  get?_put := fun _ => rfl

/-- The states of some other class, in which there is nothing to tell apart. -/
def foreignKind : StateKind State Unit where
  put := fun _ => .foreign
  get? := fun
    | .own _ => none
    | .foreign => some ()
  get?_put := fun _ => rfl

/-- What a declaration adds to the handler's own class. -/
def ownPart? : Declaration → Option (HandlerPart Int64)
  | .constructor isPublic label params rule => some (.constructor label params isPublic rule.run)
  | .designated => some .designated
  | .test label param rule => some (.test label param rule.run)
  | .foreignTest .. => none

/-- What a declaration adds to the other class, where the number kept is zero. -/
def foreignPart? : Declaration → Option (HandlerPart Unit)
  | .foreignTest label param rule => some (.test label param fun _ => rule.run 0)
  | .constructor .. | .designated | .test .. => none

/-- The handler that a script declares. Its own tests come before the foreign
ones, each in the order of the script. -/
def handler (script : List Declaration) : Handler State :=
  let own := Handler.declare ownKind (script.filterMap ownPart?)
  let other := Handler.declare foreignKind (script.filterMap foreignPart?)
  { own with tests := own.tests ++ other.tests }

end AnnotationGuards.Script
