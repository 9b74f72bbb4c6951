import AnnotationGuards.Proofs.Chain.Nesting
import AnnotationGuards.Proofs.Guard.Handlers

/-! # Links meet only usable handlers

    A link asks for a definition first, and then for a test, a wiring and a handler of
    what the definition names. Each of these steps is prepared for a class that is no
    handler, or for a type that is not there. But definitions name usable handlers only,
    so none of this comes up, however deep the link has got.

    * `LinkFault.CanOccur`: the faults that are left.
    * `Link.canOccur_of_contribute`, by induction on the depth, and from it
      `Link.canOccur_of_outcome`: there are no others.
    * `Expansion.MeetsUsable`: what the steps of a link do not come to, one by one.
      `Running.meetsUsable`: at any moment of a link. -/

namespace AnnotationGuards

variable {σ : Type} {c : LinkContext σ} {target : Target} {guards : SlotGuards}

/-- A fault of a guard that can occur, a panic that is not contained, or what has no
    end. -/
def LinkFault.CanOccur (c : LinkContext σ) : LinkFault → Prop
  | .misconfigured e => e.CanOccur
  | .aborted (.panicked _) => c.config.containPanics = false
  | .aborted _ => True

namespace Contribution

variable {α : Type} {result : Except GuardError α}

theorem ofResult_eq_ok {a : α} (h : (ofResult result : Contribution σ α).result = .ok a) :
    result = .ok a := by
  cases result with
  | error e => cases h
  | ok a' =>
    cases h
    rfl

theorem ofResult_eq_error {fault : LinkFault}
    (h : (ofResult result : Contribution σ α).result = .error fault) :
    ∃ e, result = .error e ∧ fault = .misconfigured e := by
  cases result with
  | ok a => cases h
  | error e =>
    cases h
    exact ⟨e, rfl, rfl⟩

end Contribution

namespace Link

variable {path : List String} {a : Annotation} {d : GuardDefinition} {marking : Marking}
  {depth : Nat} {fault : LinkFault}

/-- The part of a guard with a usable handler, in the order in which a link asks. -/
theorem canOccur_of_contributeInstance (hh : c.registry.UsableHandler marking.handler)
    (h : (contributeInstance c target path a d marking).result = .error fault) :
    fault.CanOccur c := by
  rcases Contribution.bind_eq_error h with htest | ⟨test, -, h⟩
  · obtain ⟨e, hfind, rfl⟩ := Contribution.ofResult_eq_error htest
    exact MatchedTest.canOccur_of_find hfind
  rcases Contribution.bind_eq_error h with hwired | ⟨instantiator, -, h⟩
  · obtain ⟨e, hmake, rfl⟩ := Contribution.ofResult_eq_error hwired
    exact Instantiator.canOccur_of_make hh hmake
  rcases Contribution.bind_eq_error h with hbuilt | ⟨handler, -, h⟩
  · rcases hrun : instantiator.instantiate c.registry a target.type c.config.containPanics with
      ⟨payload | (e | state), calls⟩
    all_goals rw [hrun] at hbuilt; cases hbuilt
    · exact instantiate_eq_panic hrun
    · exact Instantiator.canOccur_of_instantiate hrun
  rcases Contribution.bind_eq_error h with hmessage | ⟨message, -, h⟩
  · cases htext : message? c.registry marking a with
    | some text =>
      rw [htext] at hmessage
      cases hmessage
    | none =>
      rw [htext] at hmessage
      cases hmessage
      trivial
  · cases h

theorem canOccur_of_contributeOwn (hd : c.registry.definition c.config a.type = .ok (some d))
    (h : (contributeOwn c target path a d).result = .error fault) : fault.CanOccur c := by
  unfold contributeOwn at h
  cases hmarking : d.marking with
  | none =>
    rw [hmarking] at h
    cases h
  | some marking =>
    rw [hmarking] at h
    exact canOccur_of_contributeInstance (Registry.usable_of_definition hd hmarking) h

/-- **What can be wrong with a contribution**: never that a handler is none or has no
    code, at any depth. -/
theorem canOccur_of_contribute
    (h : (contribute c target depth path a).result = .error fault) : fault.CanOccur c := by
  -- A fault comes from the definition, from the guard itself, or from a guard inside.
  induction depth generalizing path a with
  | zero =>
    cases h
    trivial
  | succ depth ih =>
    cases hd : c.registry.definition c.config a.type with
    | error e =>
      rw [contribute_of_faulty hd] at h
      cases h
      exact Registry.canOccur_of_definition hd
    | ok found =>
      cases found with
      | none =>
        rw [contribute_of_not_guard (Registry.definition_eq_none_iff.mp hd)] at h
        cases h
      | some d =>
        rw [contribute_of_definition hd] at h
        rcases Contribution.bind_eq_error h with hown | ⟨_, -, hinner⟩
        · exact canOccur_of_contributeOwn hd hown
        · obtain ⟨b, -, hb⟩ := Contribution.forM_eq_error hinner
          exact ih hb

/-- A slot is disabled with the text of a fault that can occur. -/
theorem canOccur_of_outcome {reason : String} (h : outcome c guards = .ok (.disabled reason)) :
    ∃ e : GuardError, e.CanOccur ∧ reason = e.message := by
  unfold outcome at h
  rcases hresult : (contributeAll c guards).result with fault | _
  · obtain ⟨a, -, ha⟩ := Contribution.forM_eq_error hresult
    have hoccurs := canOccur_of_contribute ha
    rw [hresult] at h
    rcases fault with e | payload | _ | _
    · cases h
      exact ⟨e, hoccurs, rfl⟩
    · have hcontain : c.config.containPanics = false := hoccurs
      simp only [settle, hcontain, Bool.false_eq_true, if_false] at h
      cases h
    · cases h
    · cases h
  · rw [hresult] at h
    cases h

end Link

/-! ## The steps of a link -/

/-- What a call of `expand` does not come to: a type that is not there; and, for a guard
    that carries the marker, a handler that cannot serve, for which there is no test
    since it is none, or no wiring since it has no code. -/
structure Expansion.MeetsUsable (c : LinkContext σ) (target : Target) (x : Expansion σ) :
    Prop where
  known : ∀ t q,
    (LinkM.definitionOf c x.type).run x.start ≠ (.error (.misconfigured (.unknownType t)), q)
  handler : ∀ d marking q, (LinkM.definitionOf c x.type).run x.start = (.ok (some d), q) →
    d.marking = some marking → c.registry.UsableHandler marking.handler ∧
      (∀ guard handler, MatchedTest.find c.registry d.name marking.testsNull marking.handler
        target.type ≠ .error (.notAHandler guard handler)) ∧
      ∀ handler q', (LinkM.instantiatorOf c marking.handler).run q ≠
        (.error (.misconfigured (.handlerNotImplemented handler)), q')

theorem Expansion.meetsUsable {x : Expansion σ} (h : x.start.Coherent c) :
    x.MeetsUsable c target := by
  have hperforms := LinkM.performs_definitionOf (c := c) x.type
  constructor
  case known =>
    intro t q hrun
    obtain ⟨e, hd, heq⟩ := Contribution.ofResult_eq_error (hperforms.of_run h hrun).1
    cases heq
    exact Registry.canOccur_of_definition hd
  case handler =>
    intro d marking q hrun hmarking
    obtain ⟨hresult, hq⟩ := hperforms.of_run h hrun
    have husable := Registry.usable_of_definition (Contribution.ofResult_eq_ok hresult) hmarking
    refine ⟨husable, MatchedTest.find_ne_notAHandler husable, ?_⟩
    intro handler q' hrun'
    have hwired := ((LinkM.performs_instantiatorOf marking.handler).of_run hq hrun').1
    obtain ⟨e, hmake, heq⟩ := Contribution.ofResult_eq_error hwired
    cases heq
    exact Instantiator.canOccur_of_make husable hmake

/-- At any moment of a link, none of the calls that are running comes to it. -/
theorem Running.meetsUsable {depth : Nat} {start : LinkProgress σ} {stack : List (Expansion σ)}
    (h : Running c guards depth start stack) (hstart : start.Coherent c) :
    ∀ x ∈ stack, x.MeetsUsable c target :=
  fun x hx => Expansion.meetsUsable (h.coherent hstart x hx)

end AnnotationGuards
