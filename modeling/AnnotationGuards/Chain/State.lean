import AnnotationGuards.Chain.Basic

/-! # The state of a slot

A slot that has been linked either holds its chain of guard instances, or it is
disabled: some guard of it could not be put to work, and every value passes.
-/

namespace AnnotationGuards

/-- A slot after linking. -/
inductive SlotState (σ : Type) where
  | linked (chain : List (GuardInstance σ))
  /-- Some guard of the slot could not be put to work; every value passes. -/
  | disabled (reason : String)

/-- The state of a slot as reports show it. -/
inductive SlotStatus where
  /-- No guard applies. -/
  | passThrough
  /-- This many guard instances run in order. -/
  | guarded (links : Nat)
  | disabled (reason : String)
  deriving DecidableEq, Repr, Inhabited

namespace SlotState

variable {σ : Type}

/-- The report on a slot. -/
def status : SlotState σ → SlotStatus
  | .linked [] => .passThrough
  | .linked chain => .guarded chain.length
  | .disabled reason => .disabled reason

/-- Checks a value at a slot. -/
def check (s : SlotState σ) (v : Value) : Except Panic CheckResult × List Call :=
  match s with
  | .linked chain => runChain chain v
  | .disabled _ => (.ok (.ok ()), [])

end SlotState

end AnnotationGuards
