/-! # Slots

A slot is one place of a member where a value can be checked: a parameter or
the returned value. A scope names one isolated world of types.
-/

namespace AnnotationGuards

/-- The identity of an isolation scope. -/
structure ScopeId where
  val : UInt32
  deriving DecidableEq, Repr, Inhabited

/-- The text of a scope. -/
def ScopeId.text (s : ScopeId) : String := toString s.val.toNat

/-- One checkable place of a member. -/
inductive Slot where
  /-- The parameter with this index, counted from zero. -/
  | param (index : UInt16)
  /-- The value that the member returns. -/
  | returned
  deriving DecidableEq, Repr, Inhabited

namespace Slot

/-- The slot with a call-site index: `-1` is the returned value, a parameter
has its own index, and no other number is a slot. -/
def ofIndex? (index : Int) : Option Slot :=
  if index = -1 then some .returned
  else if 0 ≤ index ∧ index < 65536 then some (.param (UInt16.ofNat index.toNat))
  else none

/-- The call-site index of a slot. -/
def index : Slot → Int
  | .param i => i.toNat
  | .returned => -1

/-- Whether the slot is the returned value. -/
def isReturned : Slot → Bool
  | .param _ => false
  | .returned => true

/-- The slot as messages name it. -/
def text : Slot → String
  | .param i => "#" ++ toString i.toNat
  | .returned => "return"

/-- Encoding a slot and decoding it again gives the slot back. -/
theorem ofIndex?_index (s : Slot) : ofIndex? s.index = some s := by
  cases s with
  | returned => rfl
  | param i =>
    -- A parameter's index is neither `-1` nor too large for 16 bits.
    have h : i.toNat < 65536 := i.toNat_lt
    have hne : ¬ ((i.toNat : Int) = -1) := by omega
    have hin : 0 ≤ (i.toNat : Int) ∧ (i.toNat : Int) < 65536 := by omega
    simp [index, ofIndex?, hne, hin]

end Slot

end AnnotationGuards
