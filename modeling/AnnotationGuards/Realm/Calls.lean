import AnnotationGuards.Realm.Basic

/-! # Calls on a realm

The calls of a realm as data, so that whole runs of them can be spoken of. A
realm begins fresh, with nothing worked out, and each call leaves it changed.
-/

namespace AnnotationGuards

/-- A call on a realm. -/
inductive RealmCall where
  | isGuard (t : TypeId)
  | definitionFor (t : TypeId)
  | register (t : TypeId)
  | check (address : SlotAddress) (v : Value)
  | slotStatus (address : SlotAddress)

/-- What a call answers. -/
inductive RealmAnswer where
  | verdict (verdict : Verdict)
  | definition (result : DefinitionResult)
  | registered (count : Except CheckError Nat)
  | checked (result : CheckResult)
  | status (result : Except CheckError SlotStatus)

/-- The reply with its answer put differently. -/
def Reply.map (f : α → β) (reply : Reply σ α) : Reply σ β :=
  { outcome := reply.outcome.map f, calls := reply.calls, realm := reply.realm }

namespace Realm

variable {σ : Type}

/-- A realm in which nothing has been worked out. -/
def fresh (scope : ScopeId) (registry : Registry σ) (config : GuardConfig) : Realm σ :=
  { scope, registry, config }

/-- Carries out a call. -/
def perform (realm : Realm σ) : RealmCall → Reply σ RealmAnswer
  | .isGuard t =>
    let (verdict, realm) := realm.isGuard t
    { outcome := .ok (.verdict verdict), realm }
  | .definitionFor t =>
    let (result, realm) := realm.definitionFor t
    { outcome := .ok (.definition result), realm }
  | .register t =>
    let (count, realm) := realm.register t
    { outcome := .ok (.registered count), realm }
  | .check address v => (realm.check address v).map .checked
  | .slotStatus address => (realm.slotStatus address).map .status

/-- The realm after a run of calls, broken-off ones included. -/
def after (realm : Realm σ) : List RealmCall → Realm σ
  | [] => realm
  | call :: rest => (realm.perform call).realm.after rest

/-- What the calls of a run come to, one after the other. -/
def outcomes (realm : Realm σ) : List RealmCall → List (Except Abort RealmAnswer)
  | [] => []
  | call :: rest => (realm.perform call).outcome :: (realm.perform call).realm.outcomes rest

end Realm

end AnnotationGuards
