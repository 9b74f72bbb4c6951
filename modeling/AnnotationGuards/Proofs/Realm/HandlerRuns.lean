import AnnotationGuards.Proofs.Realm.Steps

/-! # When handler code runs

    Handlers are built lazily and once. The first check or report that reaches a slot runs
    the constructors of its guards, and whatever comes of this is kept: no constructor of
    the slot runs again, and every later check uses the handlers that were built then.

    The one exception is a constructor whose panic reaches the caller. Runs of calls in
    which this does not happen are those of realms that contain panics, among others
    (`Realm.not_constructorPanics_of_contained`, `Realm.not_constructorPanics_of_calm`).

    * `SlotHistory`: what a run of calls makes of one slot.
    * `Realm.exists_slotHistory`: it makes this of every slot with guards.
    * `BuiltAt`: which constructor run has built the handler of an instance.
      `Realm.exists_origins`: different instances come from different runs.
    * `Realm.handler_code_as_promised`: both together, for every run of calls. -/

namespace AnnotationGuards

variable {σ : Type} {c : LinkContext σ} {address : SlotAddress} {guards : SlotGuards}

/-! ## The history of a slot -/

/-- What a run of calls makes of a slot, where these guards apply: these are the constructor
    runs of its link, and this is the state of the slot, if its link has come to one. -/
structure SlotHistory (c : LinkContext σ) (steps : List (RealmStep σ)) (address : SlotAddress)
    (guards : SlotGuards) (runs : List (Construction σ)) (state? : Option (SlotState σ)) :
    Prop where
  /-- There is one run at most for each guard that the slot leads to, directly or through
      other guards, and they are in order. In a linked slot there is one for each of
      them, and each instance has the handler that its own run has built. -/
  occurrences : ∃ forest unbuilt, c.registry.IsWalked guards.annotations forest ∧
    c.registry.marked (GuardTree.nodesOfAll [] forest) =
      runs.map Construction.node ++ unbuilt ∧
    ∀ chain, state? = some (.linked chain) →
      unbuilt = [] ∧ List.Forall₂ Construction.Made runs chain
  /-- Each run is that of the constructor that the guard asks for. -/
  proper : ∀ k ∈ runs, k.IsProper c guards.target.type
  /-- The first call that asks for the slot runs just these constructors, and after them
      the tests that it is to run. -/
  first : ∀ earlier step later, steps = earlier ++ step :: later →
    step.call.address? = some address → (∀ e ∈ earlier, e.call.address? ≠ some address) →
    step.reply.calls = runs.map Construction.call ++ state?.elim [] step.call.testsAt
  /-- The calls after it that ask for the slot run no constructor. -/
  again : ∀ earlier step later, steps = earlier ++ step :: later →
    step.call.address? = some address → (∃ e ∈ earlier, e.call.address? = some address) →
    step.reply.calls = state?.elim [] step.call.testsAt ∧
      ∀ run ∈ step.reply.calls, run.isTest = true
  /-- All of them leave the slot in the one state. -/
  kept : ∀ step ∈ steps, step.call.address? = some address →
    Entries.get? step.reply.realm.slots address = state?
  /-- All checks are those of the one state, with the handlers in it. -/
  answers : ∀ step ∈ steps, ∀ v, step.call = .check address v → ∀ state, state? = some state →
    step.reply.outcome = ((state.check v).1.mapError .panicked).map .checked

namespace Realm

variable {realm : Realm σ} {calls : List RealmCall}

theorem elim_testsAt_isTest {call : RealmCall} {state? : Option (SlotState σ)} {run : Call}
    (h : run ∈ state?.elim [] call.testsAt) : run.isTest = true := by
  cases state? with
  | none => cases h
  | some state => exact RealmCall.isTest_of_mem_testsAt h

/-- A link that has come to a chain has come to all marked nodes, and each instance has the
    handler that its own run has built. -/
theorem made_of_linked {nodes : List GuardNode} {runs : List (Construction σ)}
    (h : Link.Constructs c guards.target.type nodes (Link.contributeAll c guards) runs)
    {chain : List (GuardInstance σ)} (hchain : Link.outcome c guards = .ok (.linked chain)) :
    nodes = runs.map Construction.node ∧ List.Forall₂ Construction.Made runs chain := by
  rcases Link.settle_eq_ok hchain with ⟨hok, hlinked⟩ | ⟨-, reason, hdisabled⟩
  · cases hlinked
    obtain ⟨unbuilt, hnodes, hall⟩ := h.nodes_eq
    rw [hall hok, List.append_nil] at hnodes
    exact ⟨hnodes, h.made hok⟩
  · cases hdisabled

/-- **Every slot with guards** has its history in a run of calls in which no constructor
    panics. -/
theorem exists_slotHistory (h : realm.Asked c [])
    (hcalm : ∀ step ∈ realm.steps calls, ¬ step.reply.ConstructorPanics)
    (hlocate : c.locate address = .ok (some guards)) :
    ∃ runs, SlotHistory c (realm.steps calls) address guards runs
      (Link.outcome c guards).toOption := by
  obtain ⟨forest, hforest⟩ := c.registry.exists_isWalked guards.annotations
  obtain ⟨runs, hruns⟩ := Link.exists_constructions hforest
  obtain ⟨unbuilt, hnodes, -⟩ := hruns.nodes_eq
  have hbefore : ∀ earlier step later, realm.steps calls = earlier ++ step :: later →
      step.before.Asked c (askedIn earlier) := by
    intro earlier step later hsteps
    exact asked_before h hsteps hcalm
  refine ⟨runs, ?occurrences, hruns.proper, ?first, ?again, ?kept, ?answers⟩
  case occurrences =>
    refine ⟨forest, unbuilt, hforest, hnodes, ?_⟩
    intro chain hchain
    obtain ⟨hall, hmade⟩ := made_of_linked hruns (eq_ok_of_toOption_eq_some hchain)
    rw [hall] at hnodes
    exact ⟨List.self_eq_append_right.mp hnodes, hmade⟩
  case first =>
    intro earlier step later hsteps hcall hfirst
    have hnew : address ∉ askedIn earlier := by
      intro hmem
      obtain ⟨e, he, heq⟩ := mem_askedIn_iff.mp hmem
      exact hfirst e he heq
    have hcalls := (hbefore earlier step later hsteps).calls_eq hcall hlocate
    rw [if_neg hnew, hruns.calls_eq] at hcalls
    exact hcalls
  case again =>
    intro earlier step later hsteps hcall hagain
    have hcalls : step.reply.calls = _ :=
      (hbefore earlier step later hsteps).calls_eq hcall hlocate
    rw [if_pos (mem_askedIn_iff.mpr hagain), List.nil_append] at hcalls
    refine ⟨hcalls, ?_⟩
    intro run hrun
    rw [hcalls] at hrun
    exact elim_testsAt_isTest hrun
  case kept =>
    intro step hstep hcall
    have hcoherent := coherent_of_mem_steps h.coherent hstep
    have hslots := (perform_of_located hcoherent hcall hlocate).2 address
    rw [if_pos rfl] at hslots
    exact hslots
  case answers =>
    intro step hstep v hcheck state hstate
    have hcoherent := coherent_of_mem_steps h.coherent hstep
    show (step.before.perform step.call).outcome = _
    rw [(perform_spec hcoherent step.call).1, hcheck]
    show (c.checked address v).map RealmAnswer.checked = _
    rw [LinkContext.checked_of_locate hlocate, eq_ok_of_toOption_eq_some hstate]
    rfl

/-- Where no guards apply, nothing runs. -/
theorem calls_of_unlocated (h : realm.Coherent c)
    (hnone : ∀ guards, c.locate address ≠ .ok (some guards)) {step : RealmStep σ}
    (hstep : step ∈ realm.steps calls) (hcall : step.call.address? = some address) :
    step.reply.calls = [] :=
  (perform_of_unlocated (coherent_of_mem_steps h hstep) hcall hnone).1

end Realm

/-! ## Where the handlers come from -/

/-- After some call of the run the slot is linked to this chain. -/
def LinkedIn (steps : List (RealmStep σ)) (address : SlotAddress)
    (chain : List (GuardInstance σ)) : Prop :=
  ∃ step ∈ steps, Entries.get? step.reply.realm.slots address = some (.linked chain)

/-- The handler of the instance is what the constructor run at place `origin.2` on the record
    of the call at place `origin.1` has built. This call asks for the slot. -/
def BuiltAt (steps : List (RealmStep σ)) (address : SlotAddress) (g : GuardInstance σ)
    (origin : Nat × Nat) : Prop :=
  ∃ (step : RealmStep σ) (k : Construction σ), steps[origin.1]? = some step ∧
    step.call.address? = some address ∧ step.reply.calls[origin.2]? = some k.call ∧ k.Made g

/-- The place of the first call that asks for the slot. -/
def firstAsked (steps : List (RealmStep σ)) (address : SlotAddress) : Nat :=
  steps.findIdx fun step => step.call.address? = some address

theorem exists_firstAsked {steps : List (RealmStep σ)}
    (h : ∃ step ∈ steps, step.call.address? = some address) :
    ∃ earlier step later, steps = earlier ++ step :: later ∧
      step.call.address? = some address ∧ (∀ e ∈ earlier, e.call.address? ≠ some address) ∧
      firstAsked steps address = earlier.length := by
  obtain ⟨first, hfirst, hasks⟩ := h
  have hsome : (steps.find? fun step => step.call.address? = some address).isSome = true :=
    List.find?_isSome.mpr ⟨first, hfirst, decide_eq_true hasks⟩
  obtain ⟨step, hfind⟩ := Option.isSome_iff_exists.mp hsome
  obtain ⟨hcall, earlier, later, hsteps, hnot⟩ := List.find?_eq_some_iff_append.mp hfind
  have hnone : ∀ e ∈ earlier, e.call.address? ≠ some address := by
    intro e he
    simpa using hnot e he
  refine ⟨earlier, step, later, hsteps, of_decide_eq_true hcall, hnone, ?_⟩
  have hpassed : earlier.findIdx (fun step => step.call.address? = some address) =
      earlier.length :=
    List.findIdx_eq_length.mpr fun e he => decide_eq_false (hnone e he)
  unfold firstAsked
  rw [hsteps, List.findIdx_append, hpassed, if_neg (Nat.lt_irrefl _), List.findIdx_cons, hcall]
  exact Nat.zero_add _

namespace Realm

variable {realm : Realm σ} {calls : List RealmCall} {chain : List (GuardInstance σ)}

/-- A slot that is linked has been asked for, and this is the chain of its link. -/
theorem exists_guards_of_linkedIn (h : realm.Asked c [])
    (hcalm : ∀ step ∈ realm.steps calls, ¬ step.reply.ConstructorPanics)
    (hlinked : LinkedIn (realm.steps calls) address chain) :
    ∃ guards, c.locate address = .ok (some guards) ∧
      Link.outcome c guards = .ok (.linked chain) ∧
      ∃ step ∈ realm.steps calls, step.call.address? = some address := by
  obtain ⟨step, hstep, hget⟩ := hlinked
  obtain ⟨earlier, later, hsteps⟩ := List.append_of_mem hstep
  have hasked := asked_before h hsteps hcalm
  obtain ⟨guards, hlocate, houtcome⟩ :=
    (perform_spec hasked.coherent step.call).2.slots address _ hget
  refine ⟨guards, hlocate, houtcome, ?_⟩
  by_contra hnone
  -- Otherwise the slot would have been open before the call, and so after it.
  have hopen : Entries.get? step.before.slots address = none := by
    apply hasked.unlinked
    intro hmem
    obtain ⟨e, he, hcall⟩ := mem_askedIn_iff.mp hmem
    exact hnone ⟨e, by rw [hsteps]; exact List.mem_append_left _ he, hcall⟩
  have hother : step.call.address? ≠ some address := fun hcall => hnone ⟨step, hstep, hcall⟩
  have hkept : Entries.get? step.reply.realm.slots address = none :=
    (get?_perform_of_ne hasked.coherent hother).trans hopen
  rw [hkept] at hget
  cases hget

/-- The instance at a place of a chain comes from the constructor run at the same place of
    the first call that has asked for the slot. -/
theorem builtAt_of_linkedIn (h : realm.Asked c [])
    (hcalm : ∀ step ∈ realm.steps calls, ¬ step.reply.ConstructorPanics)
    (hlinked : LinkedIn (realm.steps calls) address chain) {i : Nat} {g : GuardInstance σ}
    (hg : chain[i]? = some g) :
    BuiltAt (realm.steps calls) address g (firstAsked (realm.steps calls) address, i) := by
  obtain ⟨guards, hlocate, houtcome, hasks⟩ := exists_guards_of_linkedIn h hcalm hlinked
  obtain ⟨runs, hhistory⟩ := exists_slotHistory h hcalm hlocate
  obtain ⟨forest, unbuilt, -, -, hmade⟩ := hhistory.occurrences
  have hruns := (hmade chain (by rw [houtcome]; rfl)).2
  obtain ⟨earlier, step, later, hsteps, hcall, hfirst, hindex⟩ := exists_firstAsked hasks
  obtain ⟨hi, hgi⟩ := List.getElem?_eq_some_iff.mp hg
  have hi' : i < runs.length := by rw [hruns.length_eq]; exact hi
  have hrun : runs[i].Made g := by
    rw [← hgi]
    exact hruns.get hi' hi
  refine ⟨step, runs[i], ?_, hcall, ?_, hrun⟩
  · rw [hindex, hsteps, List.getElem?_append_right (Nat.le_refl _), Nat.sub_self]
    rfl
  · rw [hhistory.first earlier step later hsteps hcall hfirst]
    have hlength : i < (runs.map Construction.call).length := by
      rw [List.length_map]
      exact hi'
    rw [List.getElem?_append_left hlength, List.getElem?_map, List.getElem?_eq_getElem hi']
    rfl

/-- **No handler is shared**: there is a constructor run for each instance of each slot that
    is linked in a run of calls, and the instances of two slots, and those at two places
    of a chain, come from different runs. -/
theorem exists_origins (h : realm.Asked c [])
    (hcalm : ∀ step ∈ realm.steps calls, ¬ step.reply.ConstructorPanics) :
    ∃ origin : SlotAddress → Nat → Nat × Nat,
      (∀ address chain i g, LinkedIn (realm.steps calls) address chain → chain[i]? = some g →
        BuiltAt (realm.steps calls) address g (origin address i)) ∧
      ∀ address address' chain chain' i i', LinkedIn (realm.steps calls) address chain →
        LinkedIn (realm.steps calls) address' chain' → i < chain.length → i' < chain'.length →
        origin address i = origin address' i' → address = address' ∧ i = i' := by
  refine ⟨fun address i => (firstAsked (realm.steps calls) address, i), ?_, ?_⟩
  · intro address chain i g hlinked hg
    exact builtAt_of_linkedIn h hcalm hlinked hg
  · intro address address' chain chain' i i' hlinked hlinked' hi hi' hsame
    obtain ⟨hplace, hindex⟩ := Prod.mk.inj hsame
    refine ⟨?_, hindex⟩
    -- One call asks for one slot.
    obtain ⟨step, -, hstep, hcall, -⟩ :=
      builtAt_of_linkedIn h hcalm hlinked (List.getElem?_eq_getElem hi)
    obtain ⟨step', -, hstep', hcall', -⟩ :=
      builtAt_of_linkedIn h hcalm hlinked' (List.getElem?_eq_getElem hi')
    have hsteps : step' = step := by
      have hplaced : (realm.steps calls)[firstAsked (realm.steps calls) address']? = some step' :=
        hstep'
      rw [← hplace] at hplaced
      exact Option.some.inj (hplaced.symm.trans hstep)
    subst hsteps
    exact Option.some.inj (hcall.symm.trans hcall')

/-! ## Runs in which no constructor panics -/

/-- The panic of a constructor that reaches the caller is one of a link. -/
theorem exists_panic_of_constructorPanics (h : realm.Coherent c) {call : RealmCall}
    (hpanics : (realm.perform call).ConstructorPanics) :
    ∃ guards payload, Link.outcome c guards = .error (.panicked payload) := by
  obtain ⟨⟨payload, hpanic⟩, hbuilds⟩ := hpanics
  have hanswer : c.answer call = .error (.panicked payload) :=
    (perform_spec h call).1.symm.trans hpanic
  cases call with
  | isGuard t => cases hanswer
  | definitionFor t => cases hanswer
  | register t => cases hanswer
  | slotStatus address =>
    obtain ⟨guards, -, houtcome⟩ :=
      LinkContext.exists_of_status_eq_error (eq_error_of_map_eq_error hanswer)
    exact ⟨guards, payload, houtcome⟩
  | check address v =>
    obtain ⟨guards, hlocate, houtcome | ⟨chain, payload, houtcome, hrun, -⟩⟩ :=
      LinkContext.exists_guards_of_checked_eq_error (eq_error_of_map_eq_error hanswer)
    · exact ⟨guards, payload, houtcome⟩
    · -- A test has panicked, and so it is on record.
      obtain ⟨test, htest⟩ := exists_test_of_panic hrun
      have hcalls : (realm.perform (.check address v)).calls = _ :=
        (perform_of_located h rfl hlocate).1
      have hmem : test ∈ (realm.perform (.check address v)).calls := by
        rw [hcalls, houtcome]
        exact List.mem_append_right _ htest
      have hnot := hbuilds test hmem
      rw [isTest_of_mem_runChain htest] at hnot
      cases hnot

/-- Where panics are contained, none reaches the caller from a constructor. -/
theorem not_constructorPanics_of_contained (h : realm.Coherent c)
    (hcontain : c.config.containPanics = true) :
    ∀ step ∈ realm.steps calls, ¬ step.reply.ConstructorPanics := by
  intro step hstep hpanics
  obtain ⟨guards, payload, houtcome⟩ :=
    exists_panic_of_constructorPanics (coherent_of_mem_steps h hstep) hpanics
  have hnot := (Link.settle_eq_error houtcome).2 payload rfl
  rw [hcontain] at hnot
  cases hnot

/-- Nor where no constructor of a handler class ever panics. -/
theorem not_constructorPanics_of_calm (h : realm.Coherent c)
    (hcalm : ∀ t handler, c.registry.handler? t = some handler →
      ∀ constructor ∈ handler.constructors, ∀ arguments payload,
        constructor.build arguments ≠ .error payload) :
    ∀ step ∈ realm.steps calls, ¬ step.reply.ConstructorPanics := by
  intro step hstep hpanics
  obtain ⟨guards, payload, houtcome⟩ :=
    exists_panic_of_constructorPanics (coherent_of_mem_steps h hstep) hpanics
  obtain ⟨forest, hforest⟩ := c.registry.exists_isWalked guards.annotations
  obtain ⟨runs, hruns⟩ := Link.exists_constructions hforest
  obtain ⟨k, hk, hresult⟩ := hruns.panicked payload (Link.settle_eq_error houtcome).1
  obtain ⟨d, marking, -, -, hmake, -⟩ := hruns.proper k hk
  obtain ⟨handler, hhandler, hmem⟩ := Instantiator.exists_handler_of_make hmake
  exact hcalm _ handler hhandler k.instantiator.constructor hmem k.arguments payload hresult

/-! ## The promise -/

/-- **Handler code runs when it has been promised to.** In every run of calls on a new realm
    in which no panic of a constructor reaches the caller:

    1. asking whether a type is a guard, for a definition, or for the scan of a class
       runs no handler code;
    2. a report runs no test;
    3. calls that ask for a slot where no guards apply run no handler code;
    4. every slot with guards has its history: only the first check or report of it runs
       constructors, one for each guard that the slot leads to at most, and whatever
       comes of this is kept for all calls after it;
    5. no two instances, of two slots or at two places of one chain, have their handlers
       from the same constructor run. -/
theorem handler_code_as_promised (scope : ScopeId) (registry : Registry σ) (config : GuardConfig)
    (calls : List RealmCall)
    (hcalm : ∀ step ∈ (fresh scope registry config).steps calls,
      ¬ step.reply.ConstructorPanics) :
    (∀ step ∈ (fresh scope registry config).steps calls, ∀ t,
      step.call = .isGuard t ∨ step.call = .definitionFor t ∨ step.call = .register t →
      step.reply.calls = []) ∧
    (∀ step ∈ (fresh scope registry config).steps calls, ∀ address,
      step.call = .slotStatus address → ∀ run ∈ step.reply.calls, run.isTest = false) ∧
    (∀ address : SlotAddress,
      (∀ guards, registry.locate address.declaring address.signature address.slot ≠
        .ok (some guards)) →
      ∀ step ∈ (fresh scope registry config).steps calls,
        step.call.address? = some address → step.reply.calls = []) ∧
    (∀ (address : SlotAddress) (guards : SlotGuards),
      registry.locate address.declaring address.signature address.slot = .ok (some guards) →
      ∃ runs state?, SlotHistory ⟨registry, config⟩ ((fresh scope registry config).steps calls)
        address guards runs state?) ∧
    (∃ origin : SlotAddress → Nat → Nat × Nat,
      (∀ address chain i g, LinkedIn ((fresh scope registry config).steps calls) address chain →
        chain[i]? = some g →
        BuiltAt ((fresh scope registry config).steps calls) address g (origin address i)) ∧
      ∀ address address' chain chain' i i',
        LinkedIn ((fresh scope registry config).steps calls) address chain →
        LinkedIn ((fresh scope registry config).steps calls) address' chain' →
        i < chain.length → i' < chain'.length →
        origin address i = origin address' i' → address = address' ∧ i = i') := by
  have hfresh := asked_fresh scope registry config
  refine ⟨?_, ?_, ?_, ?_, exists_origins hfresh hcalm⟩
  · intro step hstep t hcall
    apply (perform_of_address?_eq_none _).1
    rcases hcall with hcall | hcall | hcall
    all_goals rw [hcall]; rfl
  · intro step hstep address hcall run hrun
    have hcoherent := coherent_of_mem_steps hfresh.coherent hstep
    have hasks : step.call.address? = some address := by rw [hcall]; rfl
    by_cases hfound : ∃ guards, LinkContext.locate ⟨registry, config⟩ address = .ok (some guards)
    · obtain ⟨guards, hlocate⟩ := hfound
      have hcalls : step.reply.calls = _ := (perform_of_located hcoherent hasks hlocate).1
      rw [hcalls, hcall, RealmCall.elim_testsAt_slotStatus, List.append_nil] at hrun
      split at hrun
      · cases hrun
      · exact Link.onlyBuilds_contributeAll ⟨registry, config⟩ guards run hrun
    · have hcalls : step.reply.calls = [] :=
        calls_of_unlocated hfresh.coherent (fun guards h => hfound ⟨guards, h⟩) hstep hasks
      rw [hcalls] at hrun
      cases hrun
  · intro address hnone step hstep hasks
    exact calls_of_unlocated hfresh.coherent hnone hstep hasks
  · intro address guards hlocate
    obtain ⟨runs, hhistory⟩ := exists_slotHistory hfresh hcalm hlocate
    exact ⟨runs, _, hhistory⟩

end Realm

/-- A report of the recipient and a check, with a question before them. -/
def Sample.askings : List RealmCall :=
  [.isGuard present, .slotStatus recipient, .check recipient .null]

namespace Realm

/-- In the small program the report of the recipient builds the one handler, and the check
    that comes after it builds none. -/
theorem handler_code_as_promised_sample :
    ∃ runs state?, SlotHistory ⟨Sample.registry, {}⟩ (Sample.realm.steps Sample.askings)
      Sample.recipient Sample.recipientGuards runs state? ∧ runs.length = 1 := by
  have hcalm : ∀ step ∈ Sample.realm.steps Sample.askings, ¬ step.reply.ConstructorPanics :=
    not_constructorPanics_of_contained (coherent_fresh ⟨0⟩ Sample.registry {}) rfl
  obtain ⟨-, -, -, hhistories, -⟩ :=
    handler_code_as_promised ⟨0⟩ Sample.registry {} Sample.askings hcalm
  obtain ⟨runs, state?, hhistory⟩ :=
    hhistories Sample.recipient Sample.recipientGuards (congrArg Prod.fst Sample.locate_recipient)
  refine ⟨runs, state?, hhistory, ?_⟩
  have hreport : ((Sample.realm.isGuard Sample.present).2.slotStatus Sample.recipient).calls =
      runs.map Construction.call ++
        state?.elim [] (RealmCall.slotStatus Sample.recipient).testsAt :=
    hhistory.first [⟨Sample.realm, .isGuard Sample.present⟩]
      ⟨(Sample.realm.isGuard Sample.present).2, .slotStatus Sample.recipient⟩ _ rfl rfl
      (by simp [RealmCall.address?])
  rw [RealmCall.elim_testsAt_slotStatus, List.append_nil] at hreport
  have hlength := congrArg List.length hreport
  rw [List.length_map] at hlength
  exact hlength.symm

end Realm

end AnnotationGuards
