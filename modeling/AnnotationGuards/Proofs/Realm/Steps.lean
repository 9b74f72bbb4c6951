import AnnotationGuards.Proofs.Chain.Constructions
import AnnotationGuards.Proofs.Realm.Answers

/-! # Runs of calls, step by step

    A run of calls on a realm, with the handler code that each of them runs. What a call
    runs depends on whether the slot that it asks for has been asked for before: then
    the slot is linked already, and otherwise the call links it.

    * `RealmStep`, `Realm.steps`: the calls of a run with the realms they are made on.
    * `Realm.perform_of_unlocated`, `Realm.perform_of_located`: the handler code that one
      call runs, and the slots that it leaves.
    * `Realm.Asked`: the invariant. Just the slots that have been asked for are linked.
    * `Realm.Asked.perform`, `Realm.asked_before`: every call keeps it, and so it holds
      before each call of a run. -/

namespace AnnotationGuards

variable {σ : Type}

/-! ## Calls and what they ask for -/

namespace RealmCall

/-- The slot that the call asks for. -/
def address? : RealmCall → Option SlotAddress
  | .check address _ | .slotStatus address => some address
  | .isGuard _ | .definitionFor _ | .register _ => none

/-- Checks and reports ask for a slot, and no other calls do. -/
theorem eq_of_address? {call : RealmCall} {address : SlotAddress}
    (h : call.address? = some address) :
    (∃ v, call = .check address v) ∨ call = .slotStatus address := by
  cases call with
  | check asked v => cases h; exact Or.inl ⟨v, rfl⟩
  | slotStatus asked => cases h; exact Or.inr rfl
  | isGuard t => cases h
  | definitionFor t => cases h
  | register t => cases h

/-- The tests that the call runs on a slot in this state. -/
def testsAt (call : RealmCall) (state : SlotState σ) : List Call :=
  match call with
  | .check _ v => (state.check v).2
  | .slotStatus _ | .isGuard _ | .definitionFor _ | .register _ => []

end RealmCall

/-- A call whose outcome tells of an end. There is none to a text or a nesting without
    end, and nothing comes after such a call. -/
def Reply.ends {α : Type} (reply : Reply σ α) : Bool :=
  match reply.outcome with
  | .error .endlessText | .error .endlessNesting => false
  | .ok _ | .error (.panicked _) => true

/-- The caller meets the panic of a constructor: the call has broken off with a panic,
    before any test has run. -/
def Reply.ConstructorPanics {α : Type} (reply : Reply σ α) : Prop :=
  (∃ payload, reply.outcome = .error (.panicked payload)) ∧
    ∀ call ∈ reply.calls, call.isTest = false

/-- A call of a run. -/
structure RealmStep (σ : Type) where
  /-- The realm that the call is made on. -/
  before : Realm σ
  call : RealmCall

/-- What the call comes to. -/
def RealmStep.reply (step : RealmStep σ) : Reply σ RealmAnswer := step.before.perform step.call

/-- The calls of a run, up to one that does not end. -/
def Realm.steps (realm : Realm σ) : List RealmCall → List (RealmStep σ)
  | [] => []
  | call :: rest =>
    ⟨realm, call⟩ ::
      if (realm.perform call).ends then (realm.perform call).realm.steps rest else []

/-! ## Tests on record -/

theorem GuardInstance.isTest_of_mem_check {g : GuardInstance σ} {v : Value} {call : Call}
    (h : call ∈ (g.check v).2) : call.isTest = true := by
  rw [(eq_testCall_of_mem h).2]
  rfl

/-- A chain runs tests and nothing else. -/
theorem isTest_of_mem_runChain {chain : List (GuardInstance σ)} {v : Value} {call : Call}
    (h : call ∈ (runChain chain v).2) : call.isTest = true := by
  induction chain with
  | nil => cases h
  | cons g rest ih =>
    by_cases hpasses : g.Passes v
    · rw [runChain_of_passes hpasses] at h
      rcases List.mem_append.mp h with hown | hrest
      · obtain ⟨g', -, rfl⟩ := List.mem_map.mp hown
        rfl
      · exact ih hrest
    · rw [runChain_of_stops hpasses] at h
      exact GuardInstance.isTest_of_mem_check h

/-- A chain panics with a test that has run. -/
theorem exists_test_of_panic {chain : List (GuardInstance σ)} {v : Value} {payload : Panic}
    (h : (runChain chain v).1 = .error payload) : ∃ call, call ∈ (runChain chain v).2 := by
  induction chain with
  | nil => cases h
  | cons g rest ih =>
    by_cases hpasses : g.Passes v
    · rw [runChain_of_passes hpasses] at h ⊢
      obtain ⟨call, hcall⟩ := ih h
      exact ⟨call, List.mem_append_right _ hcall⟩
    · rw [runChain_of_stops hpasses] at h ⊢
      rcases g.passes_or_stops v with hp | ⟨hskip, hno | ⟨reason, hstuck⟩ | ⟨payload, hpanic⟩⟩
      · exact absurd hp hpasses
      · rw [GuardInstance.check_of_yields hskip hno] at h
        cases h
      · rw [GuardInstance.check_of_cannotRun hskip hstuck] at h
        cases h
      · rw [GuardInstance.check_of_panics hskip hpanic]
        exact ⟨_, List.mem_singleton_self _⟩

theorem RealmCall.isTest_of_mem_testsAt {call : RealmCall} {state : SlotState σ} {run : Call}
    (h : run ∈ call.testsAt state) : run.isTest = true := by
  cases call with
  | check address v =>
    cases state with
    | linked chain => exact isTest_of_mem_runChain h
    | disabled reason => cases h
  | isGuard t => cases h
  | definitionFor t => cases h
  | register t => cases h
  | slotStatus address => cases h

/-- A report runs none, whatever state the slot has come to. -/
theorem RealmCall.elim_testsAt_slotStatus (state? : Option (SlotState σ)) (address : SlotAddress) :
    state?.elim [] (RealmCall.slotStatus address).testsAt = [] := by
  cases state? <;> rfl

/-! ## One call -/

namespace Realm

variable {c : LinkContext σ} {realm : Realm σ} {address : SlotAddress} {guards : SlotGuards}
  {call : RealmCall}

/-- Looking for a slot links none. -/
theorem exists_located (h : realm.Coherent c) (address : SlotAddress) :
    ∃ realm', realm.locate address = (c.locate address, realm') ∧ realm'.Coherent c ∧
      realm'.slots = realm.slots := by
  obtain ⟨realm', heq, h'⟩ := locate_spec h address
  refine ⟨realm', heq, h', ?_⟩
  have hslots : (realm.locate address).2.slots = realm.slots := rfl
  rw [heq] at hslots
  exact hslots

/-- Calls that ask for no slot run no handler code and link nothing. -/
theorem perform_of_address?_eq_none (h : call.address? = none) :
    (realm.perform call).calls = [] ∧ (realm.perform call).realm.slots = realm.slots := by
  cases call with
  | isGuard t => exact ⟨rfl, rfl⟩
  | definitionFor t => exact ⟨rfl, rfl⟩
  | register t => exact ⟨rfl, rfl⟩
  | check address v => cases h
  | slotStatus address => cases h

/-- Calls that ask for a slot where no guards apply run no handler code and link nothing. -/
theorem perform_of_unlocated (h : realm.Coherent c) (hcall : call.address? = some address)
    (hnone : ∀ guards, c.locate address ≠ .ok (some guards)) :
    (realm.perform call).calls = [] ∧ (realm.perform call).realm.slots = realm.slots := by
  obtain ⟨realm', heq, -, hslots⟩ := exists_located h address
  have hunlocated : (∃ e, c.locate address = .error e) ∨ c.locate address = .ok none := by
    rcases hlocate : c.locate address with e | (_ | guards)
    · exact Or.inl ⟨e, rfl⟩
    · exact Or.inr rfl
    · exact absurd hlocate (hnone guards)
  rcases RealmCall.eq_of_address? hcall with ⟨v, rfl⟩ | rfl
  · show (realm.check address v).calls = [] ∧ (realm.check address v).realm.slots = realm.slots
    unfold check
    rcases hunlocated with ⟨e, hlocate⟩ | hlocate
    all_goals rw [heq, hlocate]; exact ⟨rfl, hslots⟩
  · show (realm.slotStatus address).calls = [] ∧
      (realm.slotStatus address).realm.slots = realm.slots
    unfold slotStatus
    rcases hunlocated with ⟨e, hlocate⟩ | hlocate
    all_goals rw [heq, hlocate]; exact ⟨rfl, hslots⟩

/-- The slots that are linked after the state of one has been asked for: this one, if its
    link has come to an end, and those that were linked before. -/
theorem slotState_slots (h : realm.Coherent c) (hlocate : c.locate address = .ok (some guards))
    (other : SlotAddress) :
    Entries.get? (realm.slotState address guards).realm.slots other =
      if other = address then (Link.outcome c guards).toOption
      else Entries.get? realm.slots other := by
  unfold slotState
  cases hget : Entries.get? realm.slots address with
  | some state =>
    obtain ⟨guards', hlocate', houtcome⟩ := h.slots address state hget
    have hsame : guards' = guards := by
      rw [hlocate] at hlocate'
      cases hlocate'
      rfl
    subst hsame
    rw [houtcome]
    show Entries.get? realm.slots other = _
    by_cases hother : other = address
    · rw [if_pos hother, hother]
      exact hget
    · rw [if_neg hother]
  | none =>
    obtain ⟨progress, hlink, -, -⟩ := Link.linkSlot_eq h.definitions h.instantiators guards
    rw [h.context, hlink]
    cases Link.outcome c guards with
    | error abort =>
      -- The slot stays open.
      show Entries.get? realm.slots other = _
      by_cases hother : other = address
      · rw [if_pos hother, hother]
        exact hget
      · rw [if_neg hother]
    | ok state =>
      show Entries.get? (Entries.put realm.slots address state) other = _
      by_cases hother : other = address
      · rw [if_pos hother, hother]
        exact Entries.get?_put_self realm.slots address state
      · rw [if_neg hother]
        exact Entries.get?_put_of_ne realm.slots state (Ne.symm hother)

/-- **Calls that ask for a slot** run the code of its link, if it has not been linked before,
    and then a check runs tests of the slot. -/
theorem perform_of_located (h : realm.Coherent c) (hcall : call.address? = some address)
    (hlocate : c.locate address = .ok (some guards)) :
    (realm.perform call).calls =
        (if Entries.contains realm.slots address then []
          else (Link.contributeAll c guards).calls) ++
          (Link.outcome c guards).toOption.elim [] call.testsAt ∧
      ∀ other, Entries.get? (realm.perform call).realm.slots other =
        if other = address then (Link.outcome c guards).toOption
        else Entries.get? realm.slots other := by
  obtain ⟨realm', heq, h', hslots⟩ := exists_located h address
  have hstate := (slotState_spec h' hlocate).1
  have hbuilds := slotState_calls_eq h' address guards
  have hafter := slotState_slots h' hlocate
  rw [hslots] at hbuilds hafter
  rcases RealmCall.eq_of_address? hcall with ⟨v, rfl⟩ | rfl
  · show (realm.check address v).calls = _ ∧
      ∀ other, Entries.get? (realm.check address v).realm.slots other = _
    unfold check
    rw [heq, hlocate]
    dsimp only
    rw [hstate]
    cases houtcome : Link.outcome c guards with
    | error abort =>
      rw [houtcome] at hafter
      exact ⟨by rw [hbuilds]; exact (List.append_nil _).symm, hafter⟩
    | ok state =>
      rw [houtcome] at hafter
      exact ⟨by rw [hbuilds]; rfl, hafter⟩
  · show (realm.slotStatus address).calls = _ ∧
      ∀ other, Entries.get? (realm.slotStatus address).realm.slots other = _
    unfold slotStatus
    rw [heq, hlocate]
    dsimp only
    refine ⟨?_, hafter⟩
    rw [hbuilds, RealmCall.elim_testsAt_slotStatus, List.append_nil]

/-- A call leaves all slots as they are but the one that it asks for. -/
theorem get?_perform_of_ne (h : realm.Coherent c) (hcall : call.address? ≠ some address) :
    Entries.get? (realm.perform call).realm.slots address = Entries.get? realm.slots address := by
  cases hasks : call.address? with
  | none => rw [(perform_of_address?_eq_none hasks).2]
  | some other =>
    have hne : address ≠ other := by
      rintro rfl
      exact hcall hasks
    by_cases hfound : ∃ guards, c.locate other = .ok (some guards)
    · obtain ⟨guards, hlocate⟩ := hfound
      rw [(perform_of_located h hasks hlocate).2 address, if_neg hne]
    · rw [(perform_of_unlocated h hasks fun guards hlocate => hfound ⟨guards, hlocate⟩).2]

/-- A link that breaks off breaks off the call. -/
theorem perform_outcome_of_abort (h : realm.Coherent c) (hcall : call.address? = some address)
    (hlocate : c.locate address = .ok (some guards)) {abort : Abort}
    (habort : Link.outcome c guards = .error abort) :
    (realm.perform call).outcome = .error abort := by
  rw [(perform_spec h call).1]
  rcases RealmCall.eq_of_address? hcall with ⟨v, rfl⟩ | rfl
  · show (c.checked address v).map RealmAnswer.checked = _
    rw [LinkContext.checked_of_locate hlocate, habort]
    rfl
  · show (c.status address).map RealmAnswer.status = _
    rw [LinkContext.status_of_locate hlocate, habort]
    rfl

/-- The link comes to a state if the call ends and no constructor has panicked. -/
theorem exists_state_of_ends (h : realm.Coherent c) (hcall : call.address? = some address)
    (hlocate : c.locate address = .ok (some guards)) (hends : (realm.perform call).ends = true)
    (hcalm : ¬ (realm.perform call).ConstructorPanics) :
    ∃ state, Link.outcome c guards = .ok state := by
  cases houtcome : Link.outcome c guards with
  | ok state => exact ⟨state, rfl⟩
  | error abort =>
    have habort := perform_outcome_of_abort h hcall hlocate houtcome
    unfold Reply.ends at hends
    rw [habort] at hends
    cases abort with
    | endlessText => cases hends
    | endlessNesting => cases hends
    | panicked payload =>
      refine absurd ⟨⟨payload, habort⟩, ?_⟩ hcalm
      intro run hrun
      rw [(perform_of_located h hcall hlocate).1, houtcome] at hrun
      rcases List.mem_append.mp hrun with hbuild | hnone
      · split at hbuild
        · cases hbuild
        · exact Link.onlyBuilds_contributeAll c guards run hbuild
      · cases hnone

/-! ## The invariant -/

/-- These are the slots that have been asked for: each of them with guards is linked, and
    no other slot is. -/
structure Asked (c : LinkContext σ) (asked : List SlotAddress) (realm : Realm σ) : Prop where
  coherent : realm.Coherent c
  linked : ∀ address ∈ asked, ∀ guards, c.locate address = .ok (some guards) →
    ∃ state, Link.outcome c guards = .ok state ∧ Entries.get? realm.slots address = some state
  unlinked : ∀ address, address ∉ asked → Entries.get? realm.slots address = none

theorem asked_fresh (scope : ScopeId) (registry : Registry σ) (config : GuardConfig) :
    Asked ⟨registry, config⟩ [] (fresh scope registry config) where
  coherent := coherent_fresh scope registry config
  linked := by simp
  unlinked := fun _ _ => rfl

variable {asked : List SlotAddress}

/-- **What a call runs**: the code of the link of its slot, if the slot has not been asked
    for before, and then the tests that a check runs. -/
theorem Asked.calls_eq (h : Asked c asked realm) (hcall : call.address? = some address)
    (hlocate : c.locate address = .ok (some guards)) :
    (realm.perform call).calls =
      (if address ∈ asked then [] else (Link.contributeAll c guards).calls) ++
        (Link.outcome c guards).toOption.elim [] call.testsAt := by
  rw [(perform_of_located h.coherent hcall hlocate).1]
  unfold Entries.contains
  by_cases hasked : address ∈ asked
  · obtain ⟨state, -, hget⟩ := h.linked address hasked guards hlocate
    rw [hget, if_pos hasked]
    rfl
  · rw [h.unlinked address hasked, if_neg hasked]
    rfl

/-- **One call** keeps the invariant, with what it asks for. -/
theorem Asked.perform (h : Asked c asked realm) (call : RealmCall)
    (hends : (realm.perform call).ends = true) (hcalm : ¬ (realm.perform call).ConstructorPanics) :
    Asked c (asked ++ call.address?.toList) (realm.perform call).realm where
  coherent := (perform_spec h.coherent call).2
  linked := by
    intro address haddress guards hlocate
    by_cases hcall : call.address? = some address
    · obtain ⟨state, hstate⟩ := exists_state_of_ends h.coherent hcall hlocate hends hcalm
      refine ⟨state, hstate, ?_⟩
      rw [(perform_of_located h.coherent hcall hlocate).2 address, if_pos rfl, hstate]
      rfl
    · rw [get?_perform_of_ne h.coherent hcall]
      have hold : address ∈ asked := by simpa [hcall] using haddress
      exact h.linked address hold guards hlocate
  unlinked := by
    intro address haddress
    have hnew : address ∉ asked ∧ call.address? ≠ some address := by simpa using haddress
    rw [get?_perform_of_ne h.coherent hnew.2]
    exact h.unlinked address hnew.1

/-- Each call of a run is made on a coherent realm. -/
theorem coherent_of_mem_steps (h : realm.Coherent c) {calls : List RealmCall}
    {step : RealmStep σ} (hstep : step ∈ realm.steps calls) : step.before.Coherent c := by
  induction calls generalizing realm with
  | nil => cases hstep
  | cons call rest ih =>
    rcases List.mem_cons.mp hstep with rfl | hrest
    · exact h
    · split at hrest
      · exact ih (perform_spec h call).2 hrest
      · cases hrest

/-- What the calls have asked for. -/
def askedIn (steps : List (RealmStep σ)) : List SlotAddress :=
  steps.filterMap fun step => step.call.address?

theorem mem_askedIn_iff {steps : List (RealmStep σ)} :
    address ∈ askedIn steps ↔ ∃ step ∈ steps, step.call.address? = some address :=
  List.mem_filterMap

/-- **Before each call of a run** the slots are linked that the calls before it have asked for.
    The induction goes along these calls, each of which has come to an end. -/
theorem asked_before (h : Asked c asked realm) {calls : List RealmCall}
    {earlier later : List (RealmStep σ)} {step : RealmStep σ}
    (hsteps : realm.steps calls = earlier ++ step :: later)
    (hcalm : ∀ step ∈ realm.steps calls, ¬ step.reply.ConstructorPanics) :
    Asked c (asked ++ askedIn earlier) step.before := by
  induction calls generalizing realm asked earlier with
  | nil =>
    rcases earlier with _ | ⟨first, earlier⟩
    all_goals cases hsteps
  | cons call rest ih =>
    have hcons : realm.steps (call :: rest) = ⟨realm, call⟩ ::
        if (realm.perform call).ends then (realm.perform call).realm.steps rest else [] := rfl
    rw [hcons] at hsteps hcalm
    rcases earlier with _ | ⟨first, earlier⟩
    · cases hsteps
      rw [askedIn, List.filterMap_nil, List.append_nil]
      exact h
    · obtain ⟨hfirst, hrest⟩ := List.cons.inj hsteps
      obtain ⟨hcalm', hcalms⟩ := List.forall_mem_cons.mp hcalm
      cases hends : (realm.perform call).ends with
      | false =>
        rw [hends] at hrest
        cases earlier <;> cases hrest
      | true =>
        rw [hends, if_pos rfl] at hrest hcalms
        have hafter := ih (h.perform call hends hcalm') hrest hcalms
        have hasked : askedIn (first :: earlier) = call.address?.toList ++ askedIn earlier := by
          rw [← hfirst]
          unfold askedIn
          rw [List.filterMap_cons]
          cases call.address? <;> rfl
        rw [hasked, ← List.append_assoc]
        exact hafter

end Realm

end AnnotationGuards
