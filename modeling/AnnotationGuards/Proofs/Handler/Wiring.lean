import AnnotationGuards.Handler.Wiring
import AnnotationGuards.Proofs.Results
import Mathlib.Data.List.Basic

/-! # Where handlers come from

    A handler is built by one run of the constructor that its class has been wired with.

    * `Instantiator.exists_handler_of_make`: this constructor is one that the class
      declares.
    * `Instantiator.exists_injected_of_instantiate`: a handler is what the constructor
      built, in the one run that is on record. -/

namespace AnnotationGuards.Instantiator

variable {σ : Type} {r : Registry σ} {i : Instantiator σ}

theorem mem_of_chooseConstructor {name : String} {constructors : List (Constructor σ)}
    {c : Constructor σ} (h : chooseConstructor name constructors = .ok c) : c ∈ constructors := by
  unfold chooseConstructor at h
  split at h
  · next only hpublic =>
    cases h
    have hmem : c ∈ constructors.filter (·.isPublic) := by
      rw [hpublic]
      exact List.mem_singleton_self c
    exact List.filter_subset_self _ hmem
  · next only hdesignated _ =>
    cases h
    have hmem : c ∈ constructors.filter (·.isDesignated) := by
      rw [hdesignated]
      exact List.mem_singleton_self c
    exact List.filter_subset_self _ hmem
  · cases h
  · cases h

theorem exists_handler_of_make {h : TypeId} (hmake : make r h = .ok i) :
    ∃ handler, r.handler? h = some handler ∧ i.constructor ∈ handler.constructors := by
  unfold make at hmake
  dsimp only at hmake
  cases hhandler : r.handler? h with
  | none =>
    rw [hhandler] at hmake
    cases hmake
  | some handler =>
    rw [hhandler] at hmake
    obtain ⟨constructor, hchoose, hwired⟩ := exists_of_bind_eq_ok hmake
    obtain ⟨wiring, -, hi⟩ := exists_of_bind_eq_ok hwired
    cases hi
    exact ⟨handler, rfl, mem_of_chooseConstructor hchoose⟩

/-- What a run of the constructor leaves to settle is a handler only if the constructor has
    built one. -/
theorem settle_eq_ok {name : String} {contain : Bool} {built : Except Panic (Except String σ)}
    {state : σ} (h : settle name contain built = .ok (.ok state)) : built = .ok (.ok state) := by
  unfold settle at h
  split at h
  · cases h; rfl
  · cases h
  · split at h <;> cases h

theorem exists_injected_of_instantiate {a : Annotation} {target : GenericType} {contain : Bool}
    {state : σ} {calls : List Call}
    (h : i.instantiate r a target contain = (.ok (.ok state), calls)) :
    ∃ injected, arguments r i.handlerName a target i.wiring = .ok injected ∧
      i.constructor.build injected = .ok (.ok state) ∧
      calls = [.built i.constructor.label injected] := by
  unfold instantiate at h
  cases harguments : arguments r i.handlerName a target i.wiring with
  | error e =>
    rw [harguments] at h
    cases h
  | ok injected =>
    rw [harguments] at h
    obtain ⟨hsettle, hcalls⟩ := Prod.mk.inj h
    exact ⟨injected, rfl, settle_eq_ok hsettle, hcalls.symm⟩

end AnnotationGuards.Instantiator
