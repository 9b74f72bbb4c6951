import AnnotationGuards.Chain.Linking

/-! # Realms

A realm is a frozen registry with its configuration and everything that has been
worked out from them: verdicts, definitions, wired handler classes, scans and
linked slots. Each of these is worked out when it is first asked for and stands
from then on. A slot whose link was broken off stays open and is linked again
when it is asked for the next time.
-/

namespace AnnotationGuards

/-- The address of a slot: declaring type, signature and place. -/
structure SlotAddress where
  declaring : TypeId
  signature : String
  slot : Slot
  deriving DecidableEq, Repr, Inhabited

/-- An isolated guard engine. -/
structure Realm (σ : Type) where
  scope : ScopeId
  registry : Registry σ
  config : GuardConfig
  definitions : DefinitionTable := {}
  instantiators : InstantiatorTable σ := []
  scans : ScanTable := []
  /-- The slots linked so far. -/
  slots : Entries SlotAddress (SlotState σ) := []

/-- What a call on a realm comes to: its outcome, the handler code that it ran, and
the realm after it. -/
structure Reply (σ α : Type) where
  outcome : Except Abort α
  calls : List Call := []
  realm : Realm σ

namespace Realm

variable {σ α : Type}

/-- What linking consults in the realm. -/
def context (realm : Realm σ) : LinkContext σ := ⟨realm.registry, realm.config⟩

/-- Whether a type is a guard. -/
def isGuard (realm : Realm σ) (t : TypeId) : Verdict × Realm σ :=
  let (verdict, definitions) := realm.definitions.isGuard realm.registry t
  (verdict, { realm with definitions })

/-- The definition of a type. -/
def definitionFor (realm : Realm σ) (t : TypeId) : DefinitionResult × Realm σ :=
  let (result, definitions) := realm.definitions.definitionFor realm.registry realm.config t
  (result, { realm with definitions })

/-- The scan of a class. -/
def guardsFor (realm : Realm σ) (t : TypeId) : Except CheckError ScannedClass × Realm σ :=
  let (result, scans, verdicts) :=
    realm.scans.guardsFor realm.registry realm.definitions.verdicts t
  (result, { realm with scans, definitions := { realm.definitions with verdicts } })

/-- Scans a class ahead of its first check. Yields the number of guarded members. -/
def register (realm : Realm σ) (t : TypeId) : Except CheckError Nat × Realm σ :=
  let (result, realm) := realm.guardsFor t
  (result.map fun scanned => scanned.guardedMembers.length, realm)

/-- Whether a class has been scanned. -/
def isScanned (realm : Realm σ) (t : TypeId) : Bool := realm.scans.isScanned t

/-! ## Slots -/

/-- The guards at an address, if any annotation on the member calls for one. -/
def locate (realm : Realm σ) (address : SlotAddress) :
    Except CheckError (Option SlotGuards) × Realm σ :=
  let (result, realm) := realm.guardsFor address.declaring
  (result.bind fun scanned => scanned.slot realm.registry address.signature address.slot, realm)

/-- The state of a slot, linked now if it has not been linked before. -/
def slotState (realm : Realm σ) (address : SlotAddress) (guards : SlotGuards) :
    Reply σ (SlotState σ) :=
  match Entries.get? realm.slots address with
  | some state => { outcome := .ok state, realm }
  | none =>
    let (outcome, progress) :=
      Link.linkSlot realm.context realm.definitions realm.instantiators guards
    -- What the link has worked out stands, however it ended.
    let realm := {
      realm with
      definitions := progress.definitions
      instantiators := progress.instantiators }
    match outcome with
    | .ok state =>
      { outcome := .ok state
        calls := progress.calls
        realm := { realm with slots := Entries.put realm.slots address state } }
    -- A link that was broken off leaves the slot open.
    | .error abort => { outcome := .error abort, calls := progress.calls, realm }

/-- Checks a value at an address. It passes where no guard applies and where the
slot is disabled. -/
def check (realm : Realm σ) (address : SlotAddress) (v : Value) : Reply σ CheckResult :=
  match realm.locate address with
  | (.error e, realm) => { outcome := .ok (.error e), realm }
  | (.ok none, realm) => { outcome := .ok (.ok ()), realm }
  | (.ok (some guards), realm) =>
    let reply := realm.slotState address guards
    match reply.outcome with
    | .error abort => { outcome := .error abort, calls := reply.calls, realm := reply.realm }
    | .ok state =>
      let (result, calls) := state.check v
      { outcome := result.mapError .panicked, calls := reply.calls ++ calls, realm := reply.realm }

/-- The report on the slot at an address, which is linked for it. -/
def slotStatus (realm : Realm σ) (address : SlotAddress) :
    Reply σ (Except CheckError SlotStatus) :=
  match realm.locate address with
  | (.error e, realm) => { outcome := .ok (.error e), realm }
  | (.ok none, realm) => { outcome := .ok (.ok .passThrough), realm }
  | (.ok (some guards), realm) =>
    let reply := realm.slotState address guards
    { outcome := reply.outcome.map fun state => .ok state.status
      calls := reply.calls
      realm := reply.realm }

end Realm

end AnnotationGuards
