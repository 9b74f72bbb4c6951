import AnnotationGuards.Engine.Live
import AnnotationGuards.Proofs.Chain.Handlers
import AnnotationGuards.Proofs.Realm.Faults

/-! # The handlers of a realm are usable

    Four faults are prepared for in places that come after the definition of a guard: a
    type that is not there, a handler class that is none, one without code, and handler
    code that panics where nothing contains it. All four are ruled out by the time a link
    could meet them, the last one because a link runs constructors and no other handler
    code.

    * `LiveEngine.usable_of_ask`: a definition that is new names a usable handler.
    * **`Realm.handlers_usable`**: what this spares the links of a realm. -/

namespace AnnotationGuards

variable {σ : Type}

/-- A definition that is not kept already is worked out from the registry as it stands, so
    its handler is usable there. The verdicts that it rests on may be older. -/
theorem LiveEngine.usable_of_ask {e : LiveEngine σ} {t : TypeId} {d : GuardDefinition}
    {marking : Marking} (hnew : e.known? (.definition t) = none)
    (hask : (e.ask (.definition t)).1 = .definition (.ok (some d)))
    (hmarking : d.marking = some marking) : e.registry.UsableHandler marking.handler := by
  have hmissing : Entries.get? e.definitions.definitions t = none := Option.map_eq_none_iff.mp hnew
  have hbuilt : (e.definitions.definitionFor e.registry e.config t).1 = .ok (some d) :=
    EngineAnswer.definition.inj hask
  unfold DefinitionTable.definitionFor at hbuilt
  rw [hmissing] at hbuilt
  exact GuardDefinition.usable_of_build hbuilt hmarking

namespace Realm

variable {realm : Realm σ}

/-- **Definitions name usable handlers only**, and what comes after them can rely on it:

    1. the handler of a definition is usable on the registry on which the definition is
       asked for first, whatever else has been asked there before;
    2. at any moment of the link of a slot, no call that is running asks for the
       definition of a type that is not there, or meets a handler that is none or has no
       code;
    3. a slot that is disabled is so by a fault of a guard that can occur, and not by a
       panic. -/
theorem handlers_usable (h : realm.Reached) :
    (∀ (e : LiveEngine σ) t d marking, e.known? (.definition t) = none →
      (e.ask (.definition t)).1 = .definition (.ok (some d)) → d.marking = some marking →
      e.registry.UsableHandler marking.handler) ∧
    (∀ address guards realm', realm.locate address = (.ok (some guards), realm') →
      ∀ depth stack, Running realm'.context guards depth realm'.linkStart stack →
        ∀ x ∈ stack, x.MeetsUsable realm'.context guards.target) ∧
    ∀ address reason, (realm.slotStatus address).outcome = .ok (.ok (.disabled reason)) →
      reason ≠ "panicked while linking" ∧
        ∃ fault : GuardError, fault.CanOccur ∧ reason = fault.message := by
  have hcoherent := h.coherent
  refine ⟨fun e t d marking => LiveEngine.usable_of_ask, ?_, ?_⟩
  · intro address guards realm' hlocate depth stack hstack
    obtain ⟨found, heq, hrealm'⟩ := locate_spec hcoherent address
    rw [heq] at hlocate
    obtain ⟨-, rfl⟩ := Prod.mk.inj hlocate
    rw [hrealm'.context] at hstack ⊢
    exact hstack.meetsUsable hrealm'.linkStart
  · intro address reason hreason
    rw [(slotStatus_spec hcoherent address).1] at hreason
    obtain ⟨guards, -, houtcome⟩ := LinkContext.exists_of_status_eq_disabled hreason
    obtain ⟨fault, hoccurs, rfl⟩ := Link.canOccur_of_outcome houtcome
    exact ⟨fault.message_ne_panicked, fault, hoccurs, rfl⟩

end Realm

/-- The parts of an engine, by themselves, beside the registry with the broken guard. -/
def Sample.brokenEngine : LiveEngine Unit where
  registry := brokenRegistry []

namespace Realm

/-- Where the second of two guards is broken, the first one has a usable handler. The slot
    is disabled, and not by a panic. -/
theorem handlers_usable_sample :
    (∃ d marking, (Sample.brokenEngine.ask (.definition Sample.present)).1 =
        .definition (.ok (some d)) ∧
      d.marking = some marking ∧ marking.handler = Sample.presentHandler ∧
      Sample.brokenEngine.registry.UsableHandler Sample.presentHandler) ∧
    (∃ guards realm' x, (Sample.brokenRealm []).locate Sample.delivered =
        (.ok (some guards), realm') ∧
      Running realm'.context guards 38 realm'.linkStart [x] ∧ x.type = Sample.present ∧
      x.MeetsUsable realm'.context guards.target) ∧
    ∃ reason, ((Sample.brokenRealm []).slotStatus Sample.delivered).outcome =
        .ok (.ok (.disabled reason)) ∧ reason ≠ "panicked while linking" := by
  have hreached : (Sample.brokenRealm []).Reached := ⟨⟨0⟩, _, {}, [], rfl⟩
  obtain ⟨hdefinitions, hlinks, hslots⟩ := handlers_usable hreached
  refine ⟨?_, ?_, ?_⟩
  · have hasked : ∃ d marking, (Sample.brokenEngine.ask (.definition Sample.present)).1 =
          .definition (.ok (some d)) ∧
        d.marking = some marking ∧ marking.handler = Sample.presentHandler :=
      ⟨_, _, rfl, rfl, rfl⟩
    obtain ⟨d, marking, hask, hmarking, hhandler⟩ := hasked
    exact ⟨d, marking, hask, hmarking, hhandler,
      hhandler ▸ hdefinitions _ _ d marking rfl hask hmarking⟩
  · have hlocate : ∃ guards realm', (Sample.brokenRealm []).locate Sample.delivered =
          (.ok (some guards), realm') ∧
        guards.annotations = [{ type := Sample.present }, { type := Sample.required }] :=
      ⟨_, _, rfl, rfl⟩
    obtain ⟨guards, realm', hlocate, hannotations⟩ := hlocate
    have hbegins : Expansion.Begins realm'.context guards 38 realm'.linkStart
        ⟨38, [], { type := Sample.present }, realm'.linkStart⟩ :=
      ⟨rfl, rfl, [], [{ type := Sample.required }], hannotations, rfl⟩
    have hstack := Running.outermost hbegins
    exact ⟨guards, realm', _, hlocate, hstack, rfl,
      hlinks _ _ _ hlocate 38 _ hstack _ (List.mem_cons_self ..)⟩
  · have hdisabled : ∃ reason, ((Sample.brokenRealm []).slotStatus Sample.delivered).outcome =
        .ok (.ok (.disabled reason)) := ⟨_, rfl⟩
    obtain ⟨reason, hreason⟩ := hdisabled
    exact ⟨reason, hreason, (hslots _ reason hreason).1⟩

end Realm

end AnnotationGuards
