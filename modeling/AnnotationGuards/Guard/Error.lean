import AnnotationGuards.Handler.Basic
import AnnotationGuards.Program.TypeId

/-! # Errors of the engine

- `Circularity`: the guards that meta-annotate a guard lead back to it.
- `GuardError`: a guard that cannot be put to work. It stays at the slot where
  the guard is used and disables that slot.
- `CheckError`: what the caller of a check sees: a value that breaks a guard, or
  a check that the engine cannot carry out.
-/

namespace AnnotationGuards

/-- A cycle among guards, along the path on which it was met. The first and the
last entry are the same. -/
structure Circularity where
  path : List TypeId
  /-- The qualified names of the path. -/
  names : List String
  deriving DecidableEq, Repr, Inhabited

/-- The text of a circularity. -/
def Circularity.message (c : Circularity) : String :=
  "circular guard meta-annotations: " ++ " -> ".intercalate c.names

/-- Why a guard cannot be put to work. Types appear by their qualified names,
targets and candidates as messages show them. -/
inductive GuardError where
  | circular (guard : String) (source : Circularity)
  | noHandler (guard : String) (searched : List String)
  | abstractHandler (guard handler : String)
  | notAHandler (guard handler : String)
  | handlerNotImplemented (handler : String)
  | noSuitableConstructor (handler : String)
  | multipleDesignated (handler : String) (count : Nat)
  | unsupportedParameter (handler : String) (index : Nat) (parameter : String)
  | annotationMismatch (handler expected actual : String)
  | construction (handler reason : String)
  | noTest (guard handler target : String)
  | ambiguousTest (guard handler target : String) (candidates : List String)
  | unknownType (type : TypeId)
  deriving DecidableEq, Repr, Inhabited

/-- The text of a guard error. -/
def GuardError.message : GuardError → String
  | .circular guard source => "illegal guard " ++ guard ++ ": " ++ source.message
  | .noHandler guard searched =>
    "illegal guard " ++ guard ++ ": no handler type found (searched " ++
      ", ".intercalate searched ++ ")"
  | .abstractHandler guard handler =>
    "illegal guard " ++ guard ++ ": handler " ++ handler ++ " is abstract"
  | .notAHandler guard handler =>
    "illegal guard " ++ guard ++ ": " ++ handler ++
      " does not implement the guard handler capability"
  | .handlerNotImplemented handler =>
    "handler " ++ handler ++ ": class carries no handler implementation"
  | .noSuitableConstructor handler =>
    "handler " ++ handler ++
      ": no suitable constructor (need exactly one public or exactly one designated constructor)"
  | .multipleDesignated handler count =>
    "handler " ++ handler ++ ": " ++ toString count ++ " constructors are marked as designated"
  | .unsupportedParameter handler index parameter =>
    "handler " ++ handler ++ ": constructor parameter " ++ toString index ++
      " has unsupported type " ++ parameter
  | .annotationMismatch handler expected actual =>
    "handler " ++ handler ++ ": constructor expects @" ++ expected ++ ", got @" ++ actual
  | .construction handler reason => "handler " ++ handler ++ " failed to construct: " ++ reason
  | .noTest guard handler target =>
    "illegal guard " ++ guard ++ ": " ++ handler ++ " has no test method applicable to " ++ target
  | .ambiguousTest guard handler target candidates =>
    "illegal guard " ++ guard ++ ": ambiguous test methods on " ++ handler ++ " for " ++ target ++
      ": " ++ ", ".intercalate candidates
  | .unknownType type => "unknown type " ++ type.text

/-- A value that broke a guard. -/
structure Violation where
  /-- The whole diagnostic line. -/
  message : String
  /-- The guard's own message. -/
  guardMessage : String
  /-- The description of the checked parameter or returned value. -/
  target : String
  /-- The annotations from the use site down to the guard that failed. -/
  chain : List String
  /-- The value as the message shows it. -/
  value : String
  deriving DecidableEq, Repr, Inhabited

/-- Why a check does not pass. -/
inductive CheckError where
  /-- The value broke a guard. -/
  | violation (v : Violation)
  /-- The engine cannot carry out the check. -/
  | internal (message : String)
  deriving DecidableEq, Repr, Inhabited

/-- The text of a check error. -/
def CheckError.message : CheckError → String
  | .violation v => v.message
  | .internal message => "internal guard engine error: " ++ message

/-- How a computation of the engine can break off without an answer. -/
inductive Abort where
  /-- Handler code panicked. -/
  | panicked (payload : Panic)
  /-- The text of an annotation has no end, since its defaults contain each other. -/
  | endlessText
  /-- The guards of a slot are composed of each other without end. -/
  | endlessNesting
  deriving DecidableEq, Repr, Inhabited

end AnnotationGuards
