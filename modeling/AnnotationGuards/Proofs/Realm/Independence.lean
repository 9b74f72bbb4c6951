import AnnotationGuards.Proofs.Realm.Answers
import AnnotationGuards.Proofs.Realm.Nesting
import AnnotationGuards.Proofs.Registry.Bare

/-! # Slots are independent

    What is answered at a slot depends on the annotations there that call for a
    guard, on whether the values there may be shown, and on nothing else that is
    annotated on any member. So guards on other slots, whole or broken, and
    annotations that are no guards change no answer.

    * `Realm.SameButAnnotations`, `Registry.SameSlot`: realms that differ in nothing
      but what is annotated on members, and a slot that is in both.
    * `Realm.SameButAnnotations.exists_target`: the answers of both at the slot are
      those of two links, for one target and in one context.
    * `Realm.slots_independent`: the answers are the same, if the guards are. -/

namespace AnnotationGuards

variable {σ : Type} {r r' : Registry σ} {t : TypeId} {m m' : Member} {place : Slot}
  {own own' : List Annotation} {guards guards' : SlotGuards}

/-! ## The same slot -/

/-- A slot that is in two registries, with the annotations that stand there in each. -/
structure Registry.SameSlot (r r' : Registry σ) (t : TypeId) (m m' : Member) (place : Slot)
    (own own' : List Annotation) : Prop where
  slot : r.HasSlot t m place own
  slot' : r'.HasSlot t m' place own'
  signature_eq : r'.signature m' = r.signature m

namespace Member

theorem nameAt?_bare (m : Member) (place : Slot) : m.bare.nameAt? place = m.nameAt? place := by
  cases place with
  | param i => simp [nameAt?, bare, Param.bare, Function.comp_def]
  | returned => rfl

theorem typeAt?_bare (m : Member) (place : Slot) : m.bare.typeAt? place = m.typeAt? place := by
  cases place with
  | param i => simp [typeAt?, bare, Param.bare, Function.comp_def]
  | returned => rfl

end Member

namespace Registry.SameSlot

/-- Registries that are the same but for annotations declare the same member. -/
theorem bare_eq (h : r.SameSlot r' t m m' place own own') (hbare : r'.bare = r.bare) :
    m'.bare = m.bare := by
  obtain ⟨d, hclass, hm, hunique⟩ := h.slot.declared
  obtain ⟨d', hclass', hm', hunique'⟩ := h.slot'.declared
  have hmembers : d'.members.map Member.bare = d.members.map Member.bare := by
    have hclasses := congrArg (fun registry => registry.class? t) hbare
    simp only [class?_mapContents, hclass, hclass', Option.map_some, Option.some.injEq] at hclasses
    exact congrArg ClassDef.members hclasses
  -- The signature names one member of each class, so it is the same one.
  have hwith := r.membersWith_bare d.members (r.signature m)
  have hwith' := r'.membersWith_bare d'.members (r'.signature m')
  rw [membersWith_eq_singleton hm hunique] at hwith
  rw [membersWith_eq_singleton hm' hunique', hbare, hmembers, h.signature_eq, hwith] at hwith'
  exact (List.cons.inj hwith').1.symm

/-- The slot is the same target, if its values may be shown in both or in neither. -/
theorem target_eq (h : r.SameSlot r' t m m' place own own') (hbare : r'.bare = r.bare)
    (hsensitive : (∃ a ∈ own', a.type = .sensitive) ↔ ∃ a ∈ own, a.type = .sensitive)
    (hat : guards.IsAt t (r.signature m) m place)
    (hat' : guards'.IsAt t (r'.signature m') m' place) : guards'.target = guards.target := by
  have hmember := h.bare_eq hbare
  have hown : guards.annotations = own :=
    Option.some.inj (hat.annotations_eq.symm.trans h.slot.annotations)
  have hown' : guards'.annotations = own' :=
    Option.some.inj (hat'.annotations_eq.symm.trans h.slot'.annotations)
  rw [h.signature_eq] at hat'
  apply hat.target_eq hat'
  · rw [← m.typeAt?_bare, ← m'.typeAt?_bare, hmember]
  · rw [← m.nameAt?_bare, ← m'.nameAt?_bare, hmember]
  · rw [hown, hown']
    exact hsensitive

end Registry.SameSlot

/-! ## The same links -/

/-- A link comes to the same in both registries. -/
theorem Link.outcome_congr (config : GuardConfig) (hbare : r'.bare = r.bare)
    (guards : SlotGuards) : outcome ⟨r', config⟩ guards = outcome ⟨r, config⟩ guards :=
  (Registry.sameGuards_of_bare_eq hbare).outcome_eq config guards

/-- A link comes to the same with any annotations among which the guards are the same. -/
theorem Link.outcome_eq_of_filter_eq {c : LinkContext σ} {target : Target}
    (h : own'.filter c.registry.isGuardLike = own.filter c.registry.isGuardLike) :
    outcome c ⟨target, own'⟩ = outcome c ⟨target, own⟩ := by
  have hall : contributeAll c ⟨target, own'⟩ = contributeAll c ⟨target, own⟩ := by
    rw [contributeAll_eq_filter, contributeAll_eq_filter]
    dsimp only
    rw [h]
  unfold outcome
  rw [hall]

/-! ## The same answers -/

namespace Realm

variable {realm realm' : Realm σ}

/-- Two realms that differ in nothing but what is annotated on members and on their
    parameters, and in what they have been asked. -/
structure SameButAnnotations (realm realm' : Realm σ) : Prop where
  reached : realm.Reached
  reached' : realm'.Reached
  config_eq : realm'.config = realm.config
  bare_eq : realm'.registry.bare = realm.registry.bare

/-- **The answers at a slot of both realms** are those of two links for one target, in
    the context of one of the realms. -/
theorem SameButAnnotations.exists_target (h : realm.SameButAnnotations realm')
    (hslot : realm.registry.SameSlot realm'.registry t m m' place own own')
    (hsensitive : (∃ a ∈ own', a.type = .sensitive) ↔ ∃ a ∈ own, a.type = .sensitive) :
    ∃ target,
      realm.AnswersWith realm.context ⟨t, realm.registry.signature m, place⟩ ⟨target, own⟩ ∧
      realm'.AnswersWith realm.context ⟨t, realm.registry.signature m, place⟩
        ⟨target, own'⟩ := by
  have hcoherent : realm.Coherent ⟨realm.registry, realm.config⟩ := h.reached.coherent
  have hcoherent' : realm'.Coherent ⟨realm'.registry, realm.config⟩ :=
    h.config_eq ▸ h.reached'.coherent
  obtain ⟨guards, hguards, hown⟩ := hslot.slot.exists_slot?
  obtain ⟨guards', hguards', hown'⟩ := hslot.slot'.exists_slot?
  have hat := MemberGuards.isAt_of_slot? hguards
  have hat' := MemberGuards.isAt_of_slot? hguards'
  have hanswers := hcoherent.answersWith hslot.slot hat
  have hanswers' := hcoherent'.answersWith hslot.slot' hat'
  have htarget : guards'.target = guards.target :=
    hslot.target_eq h.bare_eq hsensitive hat hat'
  simp only [hslot.signature_eq] at hanswers'
  obtain ⟨target, annotations⟩ := guards
  obtain ⟨target', annotations'⟩ := guards'
  simp only at hown hown' htarget
  subst hown hown' htarget
  exact ⟨target', hanswers, hanswers'.congr (Link.outcome_congr realm.config h.bare_eq _)⟩

/-- **Slots are independent.** Of two realms that differ in nothing but what is annotated
    on members, and in what they have been asked, both give the same report and the
    same check of any value at a slot that has the same annotations calling for a guard
    in both, and is sensitive in both or in neither. -/
theorem slots_independent (h : realm.SameButAnnotations realm')
    (hslot : realm.registry.SameSlot realm'.registry t m m' place own own')
    (hguards : own'.filter realm'.registry.isGuardLike = own.filter realm.registry.isGuardLike)
    (hsensitive : (∃ a ∈ own', a.type = .sensitive) ↔ ∃ a ∈ own, a.type = .sensitive) :
    (realm'.slotStatus ⟨t, realm.registry.signature m, place⟩).outcome =
        (realm.slotStatus ⟨t, realm.registry.signature m, place⟩).outcome ∧
      ∀ v, (realm'.check ⟨t, realm.registry.signature m, place⟩ v).outcome =
        (realm.check ⟨t, realm.registry.signature m, place⟩ v).outcome := by
  have hlike : realm'.registry.isGuardLike = realm.registry.isGuardLike := by
    rw [← realm'.registry.isGuardLike_bare, h.bare_eq, realm.registry.isGuardLike_bare]
  rw [hlike] at hguards
  obtain ⟨target, hanswers, hanswers'⟩ := h.exists_target hslot hsensitive
  have houtcome : Link.outcome realm.context ⟨target, own'⟩ =
      Link.outcome realm.context ⟨target, own⟩ := Link.outcome_eq_of_filter_eq hguards
  constructor
  · rw [hanswers.status_eq, hanswers'.status_eq, houtcome]
  · intro v
    rw [hanswers.check_eq, hanswers'.check_eq, houtcome]

end Realm

/-! ## The small program with guards on another slot -/

namespace Sample

/-- A method of which the returned value is guarded. -/
def answer : Member where
  kind := .method
  name := "answer"
  params := [{ name := "it", type := .ofRaw .object }]
  returnType := .ofRaw .object
  annotations := [{ type := required }]

/-- The same method with a guard on its parameter as well, and with an annotation that
    is no guard. -/
def busyAnswer : Member :=
  { answer with
    params := [{ name := "it", type := .ofRaw .object, annotations := [{ type := present }] }]
    annotations := [{ type := .documented }, { type := required }] }

/-- The small program with one method of its class. -/
def realmWith (m : Member) : Realm Unit := Realm.fresh ⟨0⟩ (registryWith [m]) {}

/-- The method is the only member, so its signature is its own. -/
theorem hasSlot_registryWith (m : Member) {own : List Annotation} {place : Slot}
    (h : m.annotationsAt? place = some own) : (registryWith [m]).HasSlot service m place own where
  declared := ⟨_, rfl, List.mem_singleton_self _, by simp⟩
  annotations := h

end Sample

namespace Realm

/-- The guard on the parameter changes nothing for the returned value. -/
theorem slots_independent_sample :
    ((Sample.realmWith Sample.busyAnswer).slotStatus
        ⟨Sample.service, "answer(lang.Object)", .returned⟩).outcome = .ok (.ok (.guarded 1)) ∧
      ∀ v, ((Sample.realmWith Sample.busyAnswer).check
          ⟨Sample.service, "answer(lang.Object)", .returned⟩ v).outcome =
        ((Sample.realmWith Sample.answer).check
          ⟨Sample.service, "answer(lang.Object)", .returned⟩ v).outcome := by
  have hsame : (Sample.realmWith Sample.answer).SameButAnnotations
      (Sample.realmWith Sample.busyAnswer) :=
    ⟨⟨⟨0⟩, _, {}, [], rfl⟩, ⟨⟨0⟩, _, {}, [], rfl⟩, rfl, rfl⟩
  have hslot : (Sample.registryWith [Sample.answer]).SameSlot
      (Sample.registryWith [Sample.busyAnswer]) Sample.service Sample.answer Sample.busyAnswer
      .returned Sample.answer.annotations Sample.busyAnswer.annotations :=
    ⟨Sample.hasSlot_registryWith _ rfl, Sample.hasSlot_registryWith _ rfl, rfl⟩
  have hsensitive : (∃ a ∈ Sample.busyAnswer.annotations, a.type = .sensitive) ↔
      ∃ a ∈ Sample.answer.annotations, a.type = .sensitive := by
    simp [Sample.answer, Sample.busyAnswer, Sample.required, TypeId.documented, TypeId.sensitive]
  obtain ⟨hstatus, hchecks⟩ := slots_independent hsame hslot rfl hsensitive
  exact ⟨hstatus.trans rfl, hchecks⟩

end Realm

end AnnotationGuards
