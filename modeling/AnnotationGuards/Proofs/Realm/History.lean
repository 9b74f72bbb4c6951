import AnnotationGuards.Proofs.Chain.Linking
import AnnotationGuards.Proofs.Chain.Scan
import AnnotationGuards.Proofs.Results
import AnnotationGuards.Realm.Calls

/-! # The history of a realm

    A realm keeps whatever it has worked out: verdicts, definitions, wired
    handler classes, scans and slots. What it keeps depends on the calls before,
    and also on where a link was broken off. What it answers does not.

    * `LinkContext.answer`: what a call answers, from the registry and the
      configuration alone.
    * `Realm.Coherent`: the invariant. Everything kept is what would be worked
      out anew.
    * `Realm.perform_spec`: in a coherent realm every call answers just that, and
      the realm stays coherent.
    * `Realm.coherent_after`, `Realm.outcomes_eq`: the same for whole runs, and
      so for every realm that has been `Realm.Reached` by one.
    * `Realm.outcomes_fresh`: each call of a run answers as the first call on a
      fresh realm would. -/

namespace AnnotationGuards

variable {σ : Type}

/-! ## Answers without tables -/

namespace LinkContext

/-- The guards at an address. -/
def locate (c : LinkContext σ) (address : SlotAddress) : Except CheckError (Option SlotGuards) :=
  c.registry.locate address.declaring address.signature address.slot

/-- What a check comes to. -/
def checked (c : LinkContext σ) (address : SlotAddress) (v : Value) : Except Abort CheckResult :=
  match c.locate address with
  | .error e => .ok (.error e)
  | .ok none => .ok (.ok ())
  | .ok (some guards) =>
    match Link.outcome c guards with
    | .error abort => .error abort
    | .ok state => (state.check v).1.mapError .panicked

/-- What the report on a slot comes to. -/
def status (c : LinkContext σ) (address : SlotAddress) :
    Except Abort (Except CheckError SlotStatus) :=
  match c.locate address with
  | .error e => .ok (.error e)
  | .ok none => .ok (.ok .passThrough)
  | .ok (some guards) => (Link.outcome c guards).map fun state => .ok state.status

/-- What a call answers. -/
def answer (c : LinkContext σ) : RealmCall → Except Abort RealmAnswer
  | .isGuard t => .ok (.verdict (classify c.registry t))
  | .definitionFor t => .ok (.definition (c.registry.definition c.config t))
  | .register t =>
    .ok (.registered ((c.registry.scan t).map fun scanned => scanned.guardedMembers.length))
  | .check address v => (c.checked address v).map .checked
  | .slotStatus address => (c.status address).map .status

variable {c : LinkContext σ} {address : SlotAddress} {guards : SlotGuards} {abort : Abort}

theorem status_of_locate (h : c.locate address = .ok (some guards)) :
    c.status address = (Link.outcome c guards).map fun state => .ok state.status := by
  unfold status
  rw [h]

theorem checked_of_locate (h : c.locate address = .ok (some guards)) (v : Value) :
    c.checked address v =
      (Link.outcome c guards).bind fun state => (state.check v).1.mapError .panicked := by
  unfold checked
  simp only [h]
  cases Link.outcome c guards <;> rfl

/-- A report breaks off only with the link of the slot. -/
theorem exists_of_status_eq_error (h : c.status address = .error abort) :
    ∃ guards, c.locate address = .ok (some guards) ∧ Link.outcome c guards = .error abort := by
  unfold status at h
  split at h
  · cases h
  · cases h
  · next guards hlocate =>
    refine ⟨guards, hlocate, ?_⟩
    cases houtcome : Link.outcome c guards with
    | ok state => rw [houtcome] at h; cases h
    | error abort' => rw [houtcome] at h; cases h; rfl

/-- A report that a slot is disabled comes from the link of the slot. -/
theorem exists_of_status_eq_disabled {reason : String}
    (h : c.status address = .ok (.ok (.disabled reason))) :
    ∃ guards, c.locate address = .ok (some guards) ∧
      Link.outcome c guards = .ok (.disabled reason) := by
  unfold status at h
  split at h
  · cases h
  · cases h
  · next guards hlocate =>
    refine ⟨guards, hlocate, ?_⟩
    rcases houtcome : Link.outcome c guards with abort | (_ | _ | _) | reason'
    all_goals rw [houtcome] at h; cases h
    rfl

/-- A check breaks off with the link of the slot, or with the chain of the slot. -/
theorem exists_guards_of_checked_eq_error {v : Value} (h : c.checked address v = .error abort) :
    ∃ guards, c.locate address = .ok (some guards) ∧
      (Link.outcome c guards = .error abort ∨
        ∃ chain payload, Link.outcome c guards = .ok (.linked chain) ∧
          (runChain chain v).1 = .error payload ∧ abort = .panicked payload) := by
  unfold checked at h
  split at h
  · cases h
  · cases h
  · next guards hlocate =>
    refine ⟨guards, hlocate, ?_⟩
    rcases houtcome : Link.outcome c guards with abort' | chain | reason
    · rw [houtcome] at h
      cases h
      exact Or.inl rfl
    · rw [houtcome] at h
      obtain ⟨payload, hrun, rfl⟩ := exists_of_mapError_eq_error h
      exact Or.inr ⟨chain, payload, rfl, hrun, rfl⟩
    · rw [houtcome] at h
      cases h

/-- So it breaks off with the link, or with a test that panics. -/
theorem exists_of_checked_eq_error {v : Value} (h : c.checked address v = .error abort) :
    (∃ payload, abort = .panicked payload) ∨
    ∃ guards, c.locate address = .ok (some guards) ∧ Link.outcome c guards = .error abort := by
  obtain ⟨guards, hlocate, houtcome | ⟨-, payload, -, -, habort⟩⟩ :=
    exists_guards_of_checked_eq_error h
  · exact Or.inr ⟨guards, hlocate, houtcome⟩
  · exact Or.inl ⟨payload, habort⟩

end LinkContext

/-! ## The invariant -/

/-- Everything that the realm keeps is what its registry and its configuration
    give. A slot is kept only where guards apply, and only if its link came to
    an end. -/
structure Realm.Coherent (c : LinkContext σ) (realm : Realm σ) : Prop where
  context : realm.context = c
  definitions : realm.definitions.Coherent c.registry c.config
  instantiators : Entries.Agrees realm.instantiators (Instantiator.make c.registry)
  scans : realm.scans.Coherent c.registry
  slots : ∀ address state, Entries.get? realm.slots address = some state →
    ∃ guards, c.locate address = .ok (some guards) ∧ Link.outcome c guards = .ok state

namespace Realm

variable {c : LinkContext σ} {realm : Realm σ}

theorem coherent_fresh (scope : ScopeId) (registry : Registry σ) (config : GuardConfig) :
    Coherent ⟨registry, config⟩ (fresh scope registry config) where
  context := rfl
  definitions := DefinitionTable.coherent_empty registry config
  instantiators := Entries.agrees_nil _
  scans := Entries.agrees_nil _
  slots := by
    intro address state h
    cases h

theorem Coherent.registry_eq (h : realm.Coherent c) : realm.registry = c.registry :=
  congrArg LinkContext.registry h.context

theorem Coherent.config_eq (h : realm.Coherent c) : realm.config = c.config :=
  congrArg LinkContext.config h.context

/-! ## One call -/

theorem isGuard_spec (h : realm.Coherent c) (t : TypeId) :
    ∃ realm', realm.isGuard t = (classify c.registry t, realm') ∧ realm'.Coherent c := by
  obtain ⟨definitions, heq, hd⟩ := DefinitionTable.isGuard_eq h.definitions t
  refine ⟨{ realm with definitions }, ?_, h.context, hd, h.instantiators, h.scans, h.slots⟩
  unfold isGuard
  rw [h.registry_eq, heq]

theorem definitionFor_spec (h : realm.Coherent c) (t : TypeId) :
    ∃ realm', realm.definitionFor t = (c.registry.definition c.config t, realm') ∧
      realm'.Coherent c := by
  obtain ⟨definitions, heq, hd⟩ := DefinitionTable.definitionFor_eq h.definitions t
  refine ⟨{ realm with definitions }, ?_, h.context, hd, h.instantiators, h.scans, h.slots⟩
  unfold definitionFor
  rw [h.registry_eq, h.config_eq, heq]

theorem guardsFor_spec (h : realm.Coherent c) (t : TypeId) :
    ∃ realm', realm.guardsFor t = (c.registry.scan t, realm') ∧ realm'.Coherent c := by
  obtain ⟨scans, verdicts, heq, hs, hv⟩ :=
    ScanTable.guardsFor_eq h.scans h.definitions.verdicts t
  have hd : DefinitionTable.Coherent c.registry c.config { realm.definitions with verdicts } :=
    ⟨hv, h.definitions.definitions⟩
  refine ⟨{ realm with scans, definitions := { realm.definitions with verdicts } }, ?_,
    h.context, hd, h.instantiators, hs, h.slots⟩
  unfold guardsFor
  rw [h.registry_eq, heq]

theorem register_spec (h : realm.Coherent c) (t : TypeId) :
    ∃ realm', realm.register t =
        ((c.registry.scan t).map fun scanned => scanned.guardedMembers.length, realm') ∧
      realm'.Coherent c := by
  obtain ⟨realm', heq, h'⟩ := guardsFor_spec h t
  refine ⟨realm', ?_, h'⟩
  unfold register
  rw [heq]

theorem locate_spec (h : realm.Coherent c) (address : SlotAddress) :
    ∃ realm', realm.locate address = (c.locate address, realm') ∧ realm'.Coherent c := by
  obtain ⟨realm', heq, h'⟩ := guardsFor_spec h address.declaring
  refine ⟨realm', ?_, h'⟩
  unfold locate
  simp only [heq, h'.registry_eq]
  rfl

/-- The state of a slot is what its link comes to, whether it is linked now or
    has been linked before. -/
theorem slotState_spec (h : realm.Coherent c) {address : SlotAddress} {guards : SlotGuards}
    (hlocate : c.locate address = .ok (some guards)) :
    (realm.slotState address guards).outcome = Link.outcome c guards ∧
      (realm.slotState address guards).realm.Coherent c := by
  unfold slotState
  cases hget : Entries.get? realm.slots address with
  | some state =>
    -- The slot was linked with the guards that are at this address, and no others.
    obtain ⟨guards', hlocate', houtcome⟩ := h.slots address state hget
    have hsame : guards' = guards := by
      rw [hlocate] at hlocate'
      cases hlocate'
      rfl
    rw [hsame] at houtcome
    exact ⟨houtcome.symm, h⟩
  | none =>
    obtain ⟨progress, hlink, hprogress, -⟩ := Link.linkSlot_eq h.definitions h.instantiators guards
    rw [h.context, hlink]
    cases hc : Link.outcome c guards with
    | error abort =>
      -- The slot stays open.
      exact ⟨rfl, h.context, hprogress.definitions, hprogress.instantiators, h.scans, h.slots⟩
    | ok state =>
      refine ⟨rfl, h.context, hprogress.definitions, hprogress.instantiators, h.scans, ?_⟩
      intro other state' hother
      rw [Entries.get?_put] at hother
      split at hother
      · next hsame =>
        subst hsame
        cases hother
        exact ⟨guards, hlocate, hc⟩
      · exact h.slots other state' hother

theorem check_spec (h : realm.Coherent c) (address : SlotAddress) (v : Value) :
    (realm.check address v).outcome = c.checked address v ∧
      (realm.check address v).realm.Coherent c := by
  obtain ⟨realm', heq, h'⟩ := locate_spec h address
  unfold check LinkContext.checked
  rw [heq]
  cases hlocate : c.locate address with
  | error e => exact ⟨rfl, h'⟩
  | ok found =>
    cases found with
    | none => exact ⟨rfl, h'⟩
    | some guards =>
      obtain ⟨houtcome, hrealm⟩ := slotState_spec h' hlocate
      simp only [houtcome]
      cases Link.outcome c guards with
      | error abort => exact ⟨rfl, hrealm⟩
      | ok state => exact ⟨rfl, hrealm⟩

theorem slotStatus_spec (h : realm.Coherent c) (address : SlotAddress) :
    (realm.slotStatus address).outcome = c.status address ∧
      (realm.slotStatus address).realm.Coherent c := by
  obtain ⟨realm', heq, h'⟩ := locate_spec h address
  unfold slotStatus LinkContext.status
  rw [heq]
  cases hlocate : c.locate address with
  | error e => exact ⟨rfl, h'⟩
  | ok found =>
    cases found with
    | none => exact ⟨rfl, h'⟩
    | some guards =>
      obtain ⟨houtcome, hrealm⟩ := slotState_spec h' hlocate
      refine ⟨?_, hrealm⟩
      show (realm'.slotState address guards).outcome.map _ = _
      rw [houtcome]

/-- **One call**: in a coherent realm it answers what the registry and the
    configuration give, and it leaves the realm coherent. -/
theorem perform_spec (h : realm.Coherent c) (call : RealmCall) :
    (realm.perform call).outcome = c.answer call ∧ (realm.perform call).realm.Coherent c := by
  cases call with
  | isGuard t =>
    obtain ⟨realm', heq, h'⟩ := isGuard_spec h t
    simp only [perform, heq]
    exact ⟨rfl, h'⟩
  | definitionFor t =>
    obtain ⟨realm', heq, h'⟩ := definitionFor_spec h t
    simp only [perform, heq]
    exact ⟨rfl, h'⟩
  | register t =>
    obtain ⟨realm', heq, h'⟩ := register_spec h t
    simp only [perform, heq]
    exact ⟨rfl, h'⟩
  | check address v =>
    obtain ⟨houtcome, h'⟩ := check_spec h address v
    refine ⟨?_, h'⟩
    show (realm.check address v).outcome.map RealmAnswer.checked = _
    rw [houtcome]
    rfl
  | slotStatus address =>
    obtain ⟨houtcome, h'⟩ := slotStatus_spec h address
    refine ⟨?_, h'⟩
    show (realm.slotStatus address).outcome.map RealmAnswer.status = _
    rw [houtcome]
    rfl

/-! ## Runs of calls -/

theorem coherent_after (h : realm.Coherent c) (calls : List RealmCall) :
    (realm.after calls).Coherent c := by
  induction calls generalizing realm with
  | nil => exact h
  | cons call rest ih => exact ih (perform_spec h call).2

theorem outcomes_eq (h : realm.Coherent c) (calls : List RealmCall) :
    realm.outcomes calls = calls.map c.answer := by
  induction calls generalizing realm with
  | nil => rfl
  | cons call rest ih =>
    obtain ⟨houtcome, h'⟩ := perform_spec h call
    show _ :: (realm.perform call).realm.outcomes rest = _
    rw [houtcome, ih h', List.map_cons]

/-- The realm has come about from a fresh one by a run of calls. -/
def Reached (realm : Realm σ) : Prop :=
  ∃ scope registry config calls, realm = (fresh scope registry config).after calls

theorem Reached.coherent (h : realm.Reached) : realm.Coherent realm.context := by
  obtain ⟨scope, registry, config, calls, rfl⟩ := h
  have hafter := coherent_after (coherent_fresh scope registry config) calls
  rw [hafter.context]
  exact hafter

/-- **What a realm has worked out before changes no answer.** Each call of any run
    on a fresh realm comes to what it would come to as the first call on a fresh
    realm with the same registry and configuration. -/
theorem outcomes_fresh (scope : ScopeId) (registry : Registry σ) (config : GuardConfig)
    (calls : List RealmCall) :
    (fresh scope registry config).outcomes calls =
      calls.map fun call => ((fresh scope registry config).perform call).outcome := by
  have hfresh := coherent_fresh scope registry config
  rw [outcomes_eq hfresh]
  apply List.map_congr_left
  intro call _
  exact (perform_spec hfresh call).1.symm

end Realm

end AnnotationGuards
