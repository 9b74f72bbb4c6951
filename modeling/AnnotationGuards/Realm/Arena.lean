import AnnotationGuards.Realm.Basic

/-! # The arena of realms

Live realms by scope. A realm is reached through a handle. Handles outlive the
entry of their realm in the arena: a realm that was unloaded or replaced goes on
answering through the handles that are held on it.
-/

namespace AnnotationGuards

/-- A handle on a realm. -/
structure RealmHandle where
  index : Nat
  deriving DecidableEq, Repr, Inhabited

/-- The realms of a program. -/
structure Realms (σ : Type) where
  /-- Every realm that was ever inserted, by the index of its handle. -/
  realms : List (Realm σ) := []
  /-- The realms that are live now, by scope. -/
  live : Entries ScopeId RealmHandle := []

namespace Realms

variable {σ : Type}

/-- The realm behind a handle. -/
def realm? (rs : Realms σ) (handle : RealmHandle) : Option (Realm σ) := rs.realms[handle.index]?

/-- The live realm of a scope. -/
def get? (rs : Realms σ) (scope : ScopeId) : Option RealmHandle := Entries.get? rs.live scope

/-- The number of live realms. -/
def size (rs : Realms σ) : Nat := rs.live.length

/-- Makes a realm the live one of its scope. Yields the realm that it replaces. -/
def insert (rs : Realms σ) (realm : Realm σ) : Option RealmHandle × Realms σ :=
  (rs.get? realm.scope,
    { realms := rs.realms ++ [realm]
      live := Entries.put rs.live realm.scope ⟨rs.realms.length⟩ })

/-- Takes the realm of a scope out of the arena. -/
def unload (rs : Realms σ) (scope : ScopeId) : Option RealmHandle × Realms σ :=
  (rs.get? scope, { rs with live := Entries.erase rs.live scope })

/-- The arena after a call on a realm has left it changed. -/
def update (rs : Realms σ) (handle : RealmHandle) (realm : Realm σ) : Realms σ :=
  { rs with realms := rs.realms.set handle.index realm }

end Realms

end AnnotationGuards
