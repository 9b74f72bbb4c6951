import AnnotationGuards.Proofs.Message.Rendering
import AnnotationGuards.Proofs.Realm.Protection

/-! # Messages in a realm

    The message of a guard is a text of its annotation, worked out when a slot is
    linked. Defaults may be declared in any way, so a realm can hold annotations
    of which there is no finite text. Nothing contains this: a link that comes to
    the message of such a guard breaks off, and with it the call.

    * `Link.EndlessMessage.endlessAt`: the guard behind a message without end.
    * `Realm.texts_end_iff`: which texts there are, which calls can break off, and
      a condition on the declared defaults under which none does. -/

namespace AnnotationGuards

open Relation

variable {σ : Type} {c : LinkContext σ} {realm : Realm σ} {address : SlotAddress}
  {a : Annotation}

namespace Link

/-- A message without end shows an annotation without end, in full or by some of its
    attributes. -/
theorem endlessAt_of_message? {marking : Marking} (h : message? c.registry marking a = none) :
    c.registry.EndlessAt a := by
  unfold message? at h
  by_contra hnot
  cases htemplate : marking.template with
  | none =>
    have hsome := (Registry.isSome_renderAnnotation?_iff c.registry a).mpr hnot
    rw [htemplate] at h
    simp only [h] at hsome
    cases hsome
  | some template =>
    have hsome : (c.registry.renderTemplate? template a).isSome = true := by
      refine (Registry.isSome_renderTemplate?_iff c.registry template a).mpr ?_
      intro name v _ hget hendless
      exact hnot (Registry.endlessAt_iff.mpr ⟨_, Entries.mem_of_get? hget, hendless⟩)
    rw [htemplate] at h
    simp only [h] at hsome
    cases hsome

theorem EndlessMessage.endlessAt (h : EndlessMessage c a) :
    c.registry.Marked a.type ∧ c.registry.EndlessAt a := by
  obtain ⟨d, marking, hdef, hmarking, hmessage⟩ := h
  obtain ⟨-, -, hmarked⟩ := Registry.definition_eq_some hdef
  exact ⟨hmarked.mp (by rw [hmarking]; rfl), endlessAt_of_message? hmessage⟩

/-- One of the annotations is, or is composed of, a guard that carries the marker and
    cannot be shown to the end. -/
def MeetsEndless (c : LinkContext σ) (annotations : List Annotation) : Prop :=
  ∃ a ∈ annotations, ∃ b, ReflTransGen (ComposedOf c) a b ∧ c.registry.Marked b.type ∧
    c.registry.EndlessAt b

/-- A link that breaks off at a text without end has met a guard that has none. -/
theorem meetsEndless_of_outcome {guards : SlotGuards}
    (h : outcome c guards = .error .endlessText) : MeetsEndless c guards.annotations := by
  obtain ⟨a, ha, b, hreach, hb⟩ := meetsEndlessMessage_of_outcome h
  exact ⟨a, ha, b, hreach, hb.endlessAt⟩

end Link

namespace Realm

/-- The guards at the address lead to one that cannot be shown to the end. -/
def MeetsEndless (realm : Realm σ) (address : SlotAddress) : Prop :=
  ∃ guards realm', realm.locate address = (.ok (some guards), realm') ∧
    Link.MeetsEndless realm.context guards.annotations

theorem meetsEndless_of_outcome (h : realm.Coherent c) {guards : SlotGuards}
    (hlocate : c.locate address = .ok (some guards))
    (houtcome : Link.outcome c guards = .error .endlessText) : realm.MeetsEndless address := by
  obtain ⟨realm', heq, -⟩ := locate_spec h address
  refine ⟨guards, realm', by rw [heq, hlocate], ?_⟩
  rw [h.context]
  exact Link.meetsEndless_of_outcome houtcome

theorem meetsEndless_of_slotStatus (h : realm.Coherent c)
    (hstatus : (realm.slotStatus address).outcome = .error .endlessText) :
    realm.MeetsEndless address := by
  rw [(slotStatus_spec h address).1] at hstatus
  obtain ⟨guards, hlocate, houtcome⟩ := LinkContext.exists_of_status_eq_error hstatus
  exact meetsEndless_of_outcome h hlocate houtcome

theorem meetsEndless_of_check (h : realm.Coherent c) {v : Value}
    (hchecked : (realm.check address v).outcome = .error .endlessText) :
    realm.MeetsEndless address := by
  rw [(check_spec h address v).1] at hchecked
  -- A test that panics breaks a check off as well, but not in this way.
  rcases LinkContext.exists_of_checked_eq_error hchecked with
    ⟨payload, hpanic⟩ | ⟨guards, hlocate, houtcome⟩
  · cases hpanic
  · exact meetsEndless_of_outcome h hlocate houtcome

/-- **Texts end exactly where defaults do not lead back.** In any realm,

    1. an annotation has a text exactly if showing it does not show annotations in
       it without end, and more levels than the bound allows for change nothing;
    2. a template has one exactly if this holds of all values that it asks for;
    3. a report or a check breaks off for want of a text only where a marked guard
       behind the slot has none;
    4. none does, and all texts are there, if no type is led back to itself by the
       annotations in defaults. -/
theorem texts_end_iff (h : realm.Reached) :
    (∀ a, ((realm.registry.renderAnnotation? a).isSome = true ↔ ¬ realm.registry.EndlessAt a) ∧
      ∀ depth, realm.registry.renderDepth a ≤ depth →
        realm.registry.renderWith (realm.registry.renderAttr? depth true) a =
          realm.registry.renderAnnotation? a) ∧
    (∀ template a, (realm.registry.renderTemplate? template a).isSome = true ↔
      ∀ name v, .placeholder name ∈ Template.pieces template →
        Entries.get? (realm.registry.attributes a) name = some v → ¬ realm.registry.Endless v) ∧
    (∀ address, ((realm.slotStatus address).outcome = .error .endlessText ∨
        ∃ v, (realm.check address v).outcome = .error .endlessText) →
      realm.MeetsEndless address) ∧
    ((∀ t, ¬ TransGen realm.registry.DefaultHolds t t) →
      (∀ a, (realm.registry.renderAnnotation? a).isSome = true) ∧
      (∀ template a, (realm.registry.renderTemplate? template a).isSome = true) ∧
      ∀ address, (realm.slotStatus address).outcome ≠ .error .endlessText ∧
        ∀ v, (realm.check address v).outcome ≠ .error .endlessText) := by
  have hcoherent := h.coherent
  have hmeets : ∀ address, ((realm.slotStatus address).outcome = .error .endlessText ∨
      ∃ v, (realm.check address v).outcome = .error .endlessText) →
      realm.MeetsEndless address := by
    rintro address (hstatus | ⟨v, hchecked⟩)
    · exact meetsEndless_of_slotStatus hcoherent hstatus
    · exact meetsEndless_of_check hcoherent hchecked
  refine ⟨fun a => ⟨?_, ?_⟩, ?_, hmeets, ?_⟩
  · exact Registry.isSome_renderAnnotation?_iff realm.registry a
  · exact fun depth => Registry.renderWith_eq_of_renderDepth_le realm.registry a
  · exact Registry.isSome_renderTemplate?_iff realm.registry
  · intro hacyclic
    have hend := Registry.not_endless_of_acyclic hacyclic
    have hnone : ∀ address, ¬ realm.MeetsEndless address := by
      rintro address ⟨guards, -, -, a, -, b, -, -, hb⟩
      exact hend _ hb
    refine ⟨?_, ?_, ?_⟩
    · exact fun a => (Registry.isSome_renderAnnotation?_iff realm.registry a).mpr (hend _)
    · intro template a
      exact (Registry.isSome_renderTemplate?_iff realm.registry template a).mpr
        fun _ _ _ _ => hend _
    · intro address
      exact ⟨fun hstatus => hnone address (hmeets address (Or.inl hstatus)),
        fun v hchecked => hnone address (hmeets address (Or.inr ⟨v, hchecked⟩))⟩

/-- No default of the small program holds an annotation. -/
theorem not_defaultHolds_sample (t m : TypeId) : ¬ Sample.registry.DefaultHolds t m := by
  rintro ⟨name, v, hdefault, hm⟩
  have hplain : ∀ v ∈ Sample.registry.defaults, v.types.isEmpty = true :=
    List.all_eq_true.mp rfl
  rw [List.isEmpty_iff.mp (hplain v (Registry.mem_defaults_of_default? hdefault))] at hm
  cases hm

/-- So the small program has all its texts. -/
theorem texts_end_iff_sample :
    (Sample.registry.renderAnnotation? { type := Sample.required }).isSome = true ∧
    ∀ v, (Sample.realm.check Sample.recipient v).outcome ≠ .error .endlessText := by
  have hreached : Sample.realm.Reached := ⟨⟨0⟩, Sample.registry, {}, [], rfl⟩
  obtain ⟨-, -, -, hends⟩ := texts_end_iff hreached
  have hacyclic : ∀ t, ¬ TransGen Sample.registry.DefaultHolds t t := by
    intro t hcycle
    obtain ⟨m, hfirst, -⟩ := TransGen.head'_iff.mp hcycle
    exact not_defaultHolds_sample t m hfirst
  obtain ⟨hannotations, -, hslots⟩ := hends hacyclic
  exact ⟨hannotations _, (hslots _).2⟩

/-- An annotation type whose default holds an annotation of the type itself. It can
    be declared, and there is no text of its annotations. -/
theorem renderAnnotation?_selfDefault :
    ∃ r : Registry Unit,
      Registry.initial.declareAnnotation "app" "Loop"
        { attributes := [("self", some (.nested ⟨34⟩ []))] } = .ok (⟨34⟩, r) ∧
      r.renderAnnotation? { type := ⟨34⟩ } = none :=
  ⟨_, rfl, rfl⟩

end Realm

end AnnotationGuards
