import AnnotationGuards.Proofs.Chain.Faults
import AnnotationGuards.Proofs.Realm.Answers
import AnnotationGuards.Proofs.Realm.Messages

/-! # The first fault is to blame

    A link is all or nothing. One guard that cannot be put to work disables the slot,
    with the text of its error, and whatever has been put together before is dropped:
    no test of the slot ever runs. Of several such guards the first one that the walk
    through the annotations meets is to blame.

    * `Link.outcome_eq_disabled_iff`: a slot is disabled by the first fault.
    * `Realm.walkEnds_of_isAt`: the link of a slot is a walk through a forest.
    * `Realm.first_fault_blamed`: what is reported, and which handler code runs. It
      leaves one way out, a guard before the fault that has no finite message. -/

namespace AnnotationGuards

variable {σ : Type} {c : LinkContext σ} {type : GenericType} {guards : SlotGuards}
  {nodes : List GuardNode} {e : GuardError} {calls : List Call}

namespace Link

/-- **A slot is disabled by its first fault**, with the text of its error. -/
theorem outcome_eq_disabled_iff
    (hwalk : WalkEnds c type nodes (contributeAll c guards).result (contributeAll c guards).calls)
    {reason : String} :
    outcome c guards = .ok (.disabled reason) ↔
      ∃ e calls, FirstFault c type nodes e calls ∧ reason = e.message := by
  constructor
  · intro h
    unfold outcome at h
    rcases hwalk.result_cases with hok | ⟨e, hfault⟩ | hendless
    · rw [hok] at h
      cases h
    · rw [hfault] at h hwalk
      cases h
      exact ⟨e, _, firstFault_iff.mpr hwalk, rfl⟩
    · rw [hendless] at h
      cases h
  · rintro ⟨e, calls, hfirst, rfl⟩
    obtain ⟨hresult, -⟩ := (firstFault_iff.mp hfirst).unique hwalk
    unfold outcome
    rw [hresult]
    rfl

/-- The handler code of a link up to its first fault. -/
theorem calls_of_firstFault
    (hwalk : WalkEnds c type nodes (contributeAll c guards).result (contributeAll c guards).calls)
    (h : FirstFault c type nodes e calls) : (contributeAll c guards).calls = calls :=
  ((firstFault_iff.mp h).unique hwalk).2

end Link

namespace Realm

variable {realm : Realm σ} {t : TypeId} {m : Member} {place : Slot} {own : List Annotation}

/-- A slot is reported as disabled exactly if its link comes to that. -/
theorem AnswersWith.reports_disabled_iff {address : SlotAddress}
    (h : realm.AnswersWith c address guards) {reason : String} :
    (realm.slotStatus address).outcome = .ok (.ok (.disabled reason)) ↔
      Link.outcome c guards = .ok (.disabled reason) := by
  rw [h.status_eq]
  cases Link.outcome c guards with
  | error abort => exact ⟨nofun, nofun⟩
  | ok state =>
    match state with
    | .linked [] => exact ⟨nofun, nofun⟩
    | .linked (_ :: _) => exact ⟨nofun, nofun⟩
    | .disabled other => simp [Except.map, SlotState.status]

/-- The link of a slot is the walk through the forest that its annotations unfold to. -/
theorem walkEnds_of_isAt (hcontain : realm.config.containPanics = true)
    (hslot : realm.registry.HasSlot t m place own)
    (hguards : guards.IsAt t (realm.registry.signature m) m place) {forest : List GuardTree}
    (hforest : realm.registry.IsWalked own forest) :
    Link.WalkEnds realm.context guards.target.type (GuardTree.nodesOfAll [] forest)
      (Link.contributeAll realm.context guards).result
      (Link.contributeAll realm.context guards).calls := by
  have hown : guards.annotations = own :=
    Option.some.inj (hguards.annotations_eq.symm.trans hslot.annotations)
  have hsize : 0 < realm.context.registry.size := hslot.size_pos
  exact Link.walkEnds_contributeAll hcontain (hown ▸ hforest)
    (Link.forM_contribute_ne_endlessNesting guards.target hsize (Nat.le_succ _) guards.annotations)

/-- **The first fault is to blame**, in any realm that contains panics, whatever it has
    been asked before. For every slot there is one forest that its annotations unfold
    to, those that are no guards left out. In the walk through its nodes, every tree
    from its root down and from left to right,

    1. the slot is disabled exactly if there is a first fault, with the text of its
       error as the reason;
    2. and, unless the message of some guard has no end, exactly if some guard cannot
       be put to work;
    3. if there is a first fault, the link runs the constructors of the marked guards
       before it, in order, and its own if it is the construction that fails; and
    4. all checks pass, and run no test.

    A guard with a message without end that comes before any fault leaves the slot
    without a report. -/
theorem first_fault_blamed (h : realm.Reached) (hcontain : realm.config.containPanics = true)
    (hslot : realm.registry.HasSlot t m place own) :
    ∃ type forest, m.typeAt? place = some type ∧ realm.registry.IsWalked own forest ∧
      (∀ other, realm.registry.IsWalked own other → other = forest) ∧
      (∀ reason, realm.report t m place = .ok (.ok (.disabled reason)) ↔
        ∃ e calls, Link.FirstFault realm.context type (GuardTree.nodesOfAll [] forest) e calls ∧
          reason = e.message) ∧
      ((∀ n ∈ GuardTree.nodesOfAll [] forest, ¬ Link.EndlessMessage realm.context n.annotation) →
        ((∃ reason, realm.report t m place = .ok (.ok (.disabled reason))) ↔
          ∃ n ∈ GuardTree.nodesOfAll [] forest, ∃ e calls,
            Link.Fails realm.context type n.annotation e calls)) ∧
      ∀ e calls, Link.FirstFault realm.context type (GuardTree.nodesOfAll [] forest) e calls →
        (realm.slotStatus ⟨t, realm.registry.signature m, place⟩).calls =
          (if Entries.contains realm.slots ⟨t, realm.registry.signature m, place⟩ then []
            else calls) ∧
        ∀ v, (realm.check ⟨t, realm.registry.signature m, place⟩ v).outcome = .ok (.ok ()) ∧
          (realm.check ⟨t, realm.registry.signature m, place⟩ v).calls =
            (realm.slotStatus ⟨t, realm.registry.signature m, place⟩).calls ∧
          ∀ call ∈ (realm.check ⟨t, realm.registry.signature m, place⟩ v).calls,
            call.isTest = false := by
  have hcoherent : realm.Coherent realm.context := h.coherent
  have hslot' : realm.context.registry.HasSlot t m place own := hslot
  obtain ⟨guards, hguards, -, -⟩ := LinkContext.exists_locate_eq hslot'
  obtain ⟨forest, hforest⟩ := realm.registry.exists_isWalked own
  have hwalk := walkEnds_of_isAt hcontain hslot hguards hforest
  have hanswers := hcoherent.answersWith hslot' hguards
  have hreport : ∀ {reason}, realm.report t m place = .ok (.ok (.disabled reason)) ↔
      ∃ e calls, Link.FirstFault realm.context guards.target.type
        (GuardTree.nodesOfAll [] forest) e calls ∧ reason = e.message :=
    hanswers.reports_disabled_iff.trans (Link.outcome_eq_disabled_iff hwalk)
  refine ⟨guards.target.type, forest, hguards.type_eq, hforest,
    fun _ hother => hforest.unique hother, fun _ => hreport, ?_, ?_⟩
  · intro hmessages
    rw [← Link.exists_firstFault_iff hmessages]
    constructor
    · rintro ⟨reason, hreason⟩
      obtain ⟨e, calls, hfirst, -⟩ := hreport.mp hreason
      exact ⟨e, calls, hfirst⟩
    · rintro ⟨e, calls, hfirst⟩
      exact ⟨e.message, hreport.mpr ⟨e, calls, hfirst, rfl⟩⟩
  · intro e calls hfirst
    have houtcome : Link.outcome realm.context guards = .ok (.disabled e.message) :=
      (Link.outcome_eq_disabled_iff hwalk).mpr ⟨e, calls, hfirst, rfl⟩
    obtain ⟨hcalls, hchecks⟩ := calls_of_isAt hcoherent hslot' hguards
    have hbuilds := Link.calls_of_firstFault hwalk hfirst
    refine ⟨hbuilds ▸ hcalls, fun v => ?_⟩
    have hsame : (realm.check ⟨t, realm.registry.signature m, place⟩ v).calls =
        (realm.slotStatus ⟨t, realm.registry.signature m, place⟩).calls :=
      (hchecks v _ houtcome).trans (List.append_nil _)
    refine ⟨?_, hsame, ?_⟩
    · exact (hanswers.check_eq v).trans (by rw [houtcome]; rfl)
    · intro call hcall
      rw [hsame] at hcall
      have hmem := hcalls ▸ hcall
      split at hmem
      · cases hmem
      · exact Link.onlyBuilds_contributeAll realm.context guards call hmem

end Realm

/-! ## The small program with a broken guard -/

namespace Sample

/-- A guard whose marker names a type that is no handler class. -/
def brokenDef : AnnotationDef where
  metas := [{ type := .guardMarker, attributes := [("handler", .type present)] }]

/-- The small program with a method whose parameter carries both guards, where the second
    guard is broken, and the first one has these attributes. -/
def brokenRegistry (attributes : List (String × Option AttrValue)) : Registry Unit :=
  ((registryWith [deliver]).setKind present
    (.annotationType { presentDef with attributes })).setKind required (.annotationType brokenDef)

def brokenRealm (attributes : List (String × Option AttrValue)) : Realm Unit :=
  Realm.fresh ⟨0⟩ (brokenRegistry attributes) {}

def delivered : SlotAddress := ⟨service, "send(lang.Object)", .param 0⟩

section

variable (attributes : List (String × Option AttrValue))

theorem hasSlot_brokenRegistry :
    (brokenRegistry attributes).HasSlot service deliver (.param 0)
      [{ type := present }, { type := required }] where
  declared := ⟨_, rfl, List.mem_singleton_self _, by simp⟩
  annotations := rfl

/-- Neither guard is composed of others. -/
theorem isWalked_brokenRegistry :
    (brokenRegistry attributes).IsWalked [{ type := present }, { type := required }]
      [.node { type := present } [], .node { type := required } []] where
  roots := rfl
  unfolds := by
    simp only [List.forall_mem_cons, List.not_mem_nil, false_implies, implies_true, and_true]
    exact ⟨.node rfl nofun, .node rfl nofun⟩

/-- The second guard cannot be put to work. -/
theorem fails_required :
    ∃ e, Link.Fails (brokenRealm attributes).context (.ofRaw .object) { type := required } e [] :=
  ⟨_, rfl⟩

end

/-- The first guard can, by the one constructor of its handler. -/
theorem works_present : ∃ run,
    Link.Works (brokenRealm []).context (.ofRaw .object) { type := present } run ∧
      run.map Call.label = [.silent] := by
  have hresult : (Link.putToWork (brokenRealm []).context (.ofRaw .object)
      { type := present }).1 = .ok () := by decide +kernel
  exact ⟨_, Prod.ext hresult rfl, by decide +kernel⟩

end Sample

namespace Realm

/-- If the first guard has a message, the second one is to blame: the handler of the
    first one is built, and then everything passes. -/
theorem first_fault_blamed_sample :
    (∃ reason, (Sample.brokenRealm []).report Sample.service Sample.deliver (.param 0) =
        .ok (.ok (.disabled reason))) ∧
      ∀ v, ((Sample.brokenRealm []).check Sample.delivered v).outcome = .ok (.ok ()) ∧
        ((Sample.brokenRealm []).check Sample.delivered v).calls.map Call.label = [.silent] := by
  have hreached : (Sample.brokenRealm []).Reached := ⟨⟨0⟩, _, {}, [], rfl⟩
  obtain ⟨type, forest, htype, -, hunique, hdisabled, -, hfault⟩ :=
    first_fault_blamed hreached rfl (Sample.hasSlot_brokenRegistry [])
  obtain rfl : type = .ofRaw .object := (Option.some.inj htype).symm
  obtain rfl := hunique _ (Sample.isWalked_brokenRegistry [])
  have hmessage :
      ¬ Link.EndlessMessage (Sample.brokenRealm []).context { type := Sample.present } := by
    intro hendless
    exact (Registry.isSome_renderAnnotation?_iff _ _).mp rfl hendless.endlessAt.2
  obtain ⟨run, hworks, hrun⟩ := Sample.works_present
  obtain ⟨e, hfails⟩ := Sample.fails_required []
  have hfirst : Link.FirstFault (Sample.brokenRealm []).context (.ofRaw .object)
      [⟨[], { type := Sample.present }⟩, ⟨[], { type := Sample.required }⟩] e (run ++ []) :=
    Link.firstFault_iff.mpr (.works hworks hmessage (.fails [] hfails))
  obtain ⟨hcalls, hchecks⟩ := hfault _ _ hfirst
  refine ⟨⟨e.message, (hdisabled _).mpr ⟨e, _, hfirst, rfl⟩⟩, fun v => ?_⟩
  obtain ⟨hpasses, hsame, -⟩ := hchecks v
  have hbuilt : ((Sample.brokenRealm []).check Sample.delivered v).calls = run :=
    (hsame.trans hcalls).trans run.append_nil
  exact ⟨hpasses, by rw [hbuilt, hrun]⟩

/-- A broken guard that does not disable its slot: the message of the guard before it
    has no end. -/
theorem slotStatus_endless_before_fault :
    (Sample.brokenRealm Sample.selfDefault).Reached ∧
    (Sample.brokenRealm Sample.selfDefault).config.containPanics = true ∧
    (Sample.brokenRegistry Sample.selfDefault).HasSlot Sample.service Sample.deliver (.param 0)
      [{ type := Sample.present }, { type := Sample.required }] ∧
    (Sample.brokenRegistry Sample.selfDefault).IsWalked
      [{ type := Sample.present }, { type := Sample.required }]
      [.node { type := Sample.present } [], .node { type := Sample.required } []] ∧
    (∃ e, Link.Fails (Sample.brokenRealm Sample.selfDefault).context (.ofRaw .object)
      { type := Sample.required } e []) ∧
    ((Sample.brokenRealm Sample.selfDefault).slotStatus Sample.delivered).outcome =
      .error .endlessText :=
  ⟨⟨⟨0⟩, _, {}, [], rfl⟩, rfl, Sample.hasSlot_brokenRegistry _, Sample.isWalked_brokenRegistry _,
    Sample.fails_required _, by decide +kernel⟩

end Realm

end AnnotationGuards
