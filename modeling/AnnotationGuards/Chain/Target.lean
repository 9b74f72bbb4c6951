import AnnotationGuards.Program.Slot
import AnnotationGuards.Registry.Naming

/-! # Targets

What a guard is applied to: one slot of a member of a declaring type, with the
type declared for it.
-/

namespace AnnotationGuards

/-- A parameter or returned value to which guards apply. -/
structure Target where
  declaring : TypeId
  /-- The signature of the member. -/
  member : String
  slot : Slot
  /-- The name of the parameter; none for the returned value. -/
  name : Option String
  type : GenericType
  /-- The values must not be shown. -/
  sensitive : Bool := false
  deriving Inhabited

namespace Target

variable {σ : Type}

/-- The static type of the target's values. -/
def staticType (t : Target) : TypeId := t.type.raw

/-- Two targets are the same if they are the same slot of the same member; the
rest follows from the declaration. -/
def same (s t : Target) : Bool :=
  s.declaring = t.declaring && s.member = t.member && s.slot = t.slot

/-- The targets of a list without repetitions. -/
def distinct : List Target → List Target
  | [] => []
  | t :: rest =>
    let others := distinct rest
    if others.any t.same then others else t :: others

/-- The target as messages name it. -/
def describe (r : Registry σ) (t : Target) : String :=
  let owner := r.simpleName t.declaring ++ "." ++ t.member
  match t.slot, t.name with
  | .returned, _ => "return value of " ++ owner
  | .param i, some name =>
    "parameter '" ++ name ++ "' (#" ++ toString i.toNat ++ ") of " ++ owner
  | .param i, none => "parameter #" ++ toString i.toNat ++ " of " ++ owner

end Target

end AnnotationGuards
