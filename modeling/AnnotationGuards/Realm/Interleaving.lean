import AnnotationGuards.Realm.Arena
import AnnotationGuards.Realm.Calls

/-! # The arena at work

What a program does with an arena and with the handles that it holds, as data: realms are
inserted, looked up and unloaded, and called through their handles, in any order.

## Contents

- `ArenaStep`, `ArenaAnswer`: the steps, and what they yield
- `Realms.step`, `Realms.after`, `Realms.trace`: one step, and whole runs
- `RealmHandle.callsIn`, `RealmHandle.recordsIn`: what a run does through one handle, and
  what the caller sees of it
- `Realm.records`: what the calls on a realm by itself look like
-/

namespace AnnotationGuards

/-- A step of a program that works with an arena. -/
inductive ArenaStep (σ : Type) where
  /-- Makes a realm the live one of its scope, with whatever it has been asked before. -/
  | insert (realm : Realm σ)
  | get (scope : ScopeId)
  | unload (scope : ScopeId)
  /-- A call through a handle, wherever that comes from. -/
  | call (handle : RealmHandle) (call : RealmCall)

/-- What the caller sees of a call: its outcome and the handler code that it runs. -/
structure CallRecord where
  outcome : Except Abort RealmAnswer
  calls : List Call

/-- What a step yields. -/
inductive ArenaAnswer where
  /-- The realm that is found, replaced or taken out. -/
  | found (handle : Option RealmHandle)
  | called (record : CallRecord)
  /-- There is no realm behind the handle. -/
  | noRealm

/-- What the caller sees of a reply. -/
def Reply.record {σ : Type} (reply : Reply σ RealmAnswer) : CallRecord :=
  ⟨reply.outcome, reply.calls⟩

/-- What the calls of a run on one realm look like, one after the other. -/
def Realm.records {σ : Type} (realm : Realm σ) : List RealmCall → List CallRecord
  | [] => []
  | call :: rest => (realm.perform call).record :: (realm.perform call).realm.records rest

namespace Realms

variable {σ : Type}

/-- What a step yields, and the arena after it. -/
def step (rs : Realms σ) : ArenaStep σ → ArenaAnswer × Realms σ
  | .insert realm =>
    let (replaced, rs) := rs.insert realm
    (.found replaced, rs)
  | .get scope => (.found (rs.get? scope), rs)
  | .unload scope =>
    let (unloaded, rs) := rs.unload scope
    (.found unloaded, rs)
  | .call handle call =>
    match rs.realm? handle with
    | none => (.noRealm, rs)
    | some realm =>
      let reply := realm.perform call
      -- All handles on the realm see what the call has left behind.
      (.called reply.record, rs.update handle reply.realm)

/-- The arena after a run of steps. -/
def after (rs : Realms σ) : List (ArenaStep σ) → Realms σ
  | [] => rs
  | step :: rest => (rs.step step).2.after rest

/-- The steps of a run, each with what it yields. -/
def trace (rs : Realms σ) : List (ArenaStep σ) → List (ArenaStep σ × ArenaAnswer)
  | [] => []
  | step :: rest => (step, (rs.step step).1) :: (rs.step step).2.trace rest

end Realms

namespace RealmHandle

variable {σ : Type}

/-- The call that a step makes through the handle, if it makes one. -/
def callOf? (handle : RealmHandle) : ArenaStep σ → Option RealmCall
  | .call other call => if other = handle then some call else none
  | .insert _ | .get _ | .unload _ => none

/-- The calls that a run makes through the handle. -/
def callsIn (handle : RealmHandle) (steps : List (ArenaStep σ)) : List RealmCall :=
  steps.filterMap handle.callOf?

/-- What the caller sees of a step that is a call through the handle. -/
def recordOf? (handle : RealmHandle) : ArenaStep σ × ArenaAnswer → Option CallRecord
  | (.call other _, .called record) => if other = handle then some record else none
  | _ => none

/-- What the caller sees of the calls through the handle. -/
def recordsIn (handle : RealmHandle) (trace : List (ArenaStep σ × ArenaAnswer)) :
    List CallRecord :=
  trace.filterMap handle.recordOf?

end RealmHandle

end AnnotationGuards
