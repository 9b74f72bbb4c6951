import AnnotationGuards.Proofs.Chain.Composition
import AnnotationGuards.Proofs.Chain.Protection
import AnnotationGuards.Proofs.Realm.Independence

/-! # Composition is transparent

    A guard that carries no marker is a name for the guards on its type. Wherever it
    stands, these may be written in its place: the slot reports the same, and checks
    come to the same. Only the paths of what came through the name tell of it.

    * `Link.chain_ne_nil`: a guard is never linked to an empty chain.
    * `Realm.composition_transparent`: a slot with the guard, and with the guards that
      it is composed of. -/

namespace AnnotationGuards

variable {σ : Type} {c : LinkContext σ} {p : Annotation}

/-! ## Slots with a guard -/

/-- A slot with a guard among its annotations is not linked to an empty chain. -/
theorem Link.chain_ne_nil {guards : SlotGuards} {chain : List (GuardInstance σ)}
    (h : outcome c guards = .ok (.linked chain)) (hp : p ∈ guards.annotations)
    (hguard : c.registry.isGuard p.type = true) : chain ≠ [] := by
  rcases settle_eq_ok h with ⟨hok, hchain⟩ | ⟨-, reason, hdisabled⟩
  · cases hchain
    obtain ⟨hresult, hsub⟩ := Contribution.forM_eq_ok hok hp
    obtain ⟨g, hg⟩ := List.exists_mem_of_ne_nil _ (instances_ne_nil hguard hresult)
    exact List.ne_nil_of_mem (hsub hg)
  · cases hdisabled

/-- The report on a chain says how long it is, wherever its instances stand. -/
theorem SlotState.status_linked_below (first through last : List (GuardInstance σ))
    (above : List String) :
    (SlotState.linked (first ++ through.map (GuardInstance.below above) ++ last)).status =
      (SlotState.linked (first ++ through ++ last)).status := by
  rw [status_linked, status_linked]
  simp

/-- A link that ends with a fault is not reported to have any instances. -/
theorem Link.report_settle_error_ne_guarded (e : LinkFault) (links : Nat) :
    (settle c [] (.error e)).map (fun state => (.ok state.status : Except CheckError SlotStatus)) ≠
      .ok (.ok (.guarded links)) := by
  intro h
  cases hsettle : settle c [] (.error e) with
  | error abort =>
    rw [hsettle] at h
    cases h
  | ok state =>
    rcases settle_eq_ok hsettle with ⟨hok, -⟩ | ⟨-, reason, rfl⟩
    · cases hok
    · rw [hsettle] at h
      cases h

/-- Chains of which one has the middle part further down. -/
theorem GuardInstance.forall₂_below (first through last : List (GuardInstance σ))
    (above : List String) :
    List.Forall₂ (fun g g' => g = g' ∨ g = g'.below above)
      (first ++ through.map (GuardInstance.below above) ++ last) (first ++ through ++ last) := by
  have hmiddle : List.Forall₂ (fun g g' => g = g' ∨ g = g'.below above)
      (through.map (GuardInstance.below above)) through := by
    rw [List.forall₂_map_left_iff]
    exact List.forall₂_same.mpr fun _ _ => Or.inr rfl
  have hsame : ∀ chain : List (GuardInstance σ),
      List.Forall₂ (fun g g' => g = g' ∨ g = g'.below above) chain chain :=
    fun _ => List.forall₂_same.mpr fun _ _ => Or.inl rfl
  exact List.rel_append (List.rel_append (hsame first) hmiddle) (hsame last)

/-- Whether one of the annotations keeps values from being shown is the same with `p`
    and with others in its place, if none of these does. -/
theorem exists_sensitive_iff {implied : List Annotation} (hp : p.type ≠ .sensitive)
    (himplied : ∀ a ∈ implied, a.type ≠ .sensitive) (before after : List Annotation) :
    (∃ a ∈ before ++ implied ++ after, a.type = .sensitive) ↔
      ∃ a ∈ before ++ p :: after, a.type = .sensitive := by
  have hnone : ¬ ∃ a ∈ implied, a.type = .sensitive := by
    rintro ⟨a, ha, hsensitive⟩
    exact himplied a ha hsensitive
  simp only [List.mem_append, List.mem_cons, or_and_right, exists_or, exists_eq_left, hnone, hp,
    or_false, false_or]

namespace Realm

variable {realm realm' : Realm σ} {address : SlotAddress} {d : GuardDefinition}
  {before implied after : List Annotation}

/-- The realm has the guard `p` between other annotations of a slot, the other realm
    has some guards in its place. The two answer the same, but for the paths of what
    came through `p`. -/
structure SameThrough (realm realm' : Realm σ) (address : SlotAddress) (p : Annotation)
    (before implied after : List Annotation) : Prop where
  status_eq : (realm.slotStatus address).outcome = (realm'.slotStatus address).outcome
  check_same : ∀ v, SameCheck (Link.pathEntry realm.registry p)
    (realm.check address v).outcome (realm'.check address v).outcome
  /-- The instances with the entry of `p` are those that the guards in its place link to,
      which stand in the chain where `p` stands among the annotations. -/
  links : ∀ links, (realm.slotStatus address).outcome = .ok (.ok (.guarded links)) →
    ∃ target first through last,
      Link.outcome realm.context ⟨target, before⟩ = .ok (.linked first) ∧
      Link.outcome realm.context ⟨target, implied⟩ = .ok (.linked through) ∧
      Link.outcome realm.context ⟨target, after⟩ = .ok (.linked last) ∧
      realm.LinksTo address ⟨target, before ++ p :: after⟩
        (first ++ through.map (GuardInstance.below [Link.pathEntry realm.registry p]) ++ last) ∧
      realm'.LinksTo address ⟨target, before ++ implied ++ after⟩ (first ++ through ++ last)

/-- Answers are the same if they are those of the two links for one target. -/
theorem sameThrough_of_answersWith {target : Target} (hsize : 0 < realm.context.registry.size)
    (hguard : realm.context.registry.isGuard p.type = true)
    (hdef : realm.context.registry.definition realm.context.config p.type = .ok (some d))
    (hmarking : d.marking = none)
    (h : realm.AnswersWith realm.context address ⟨target, before ++ p :: after⟩)
    (h' : realm'.AnswersWith realm.context address ⟨target, before ++ d.implied ++ after⟩) :
    realm.SameThrough realm' address p before d.implied after := by
  rcases Link.outcome_through hsize hdef hmarking target before after with
    ⟨e, he, he'⟩ | ⟨first, through, last, hfirst, hthrough, hlast, hchain, hchain'⟩
  · -- Both links end with the same fault, so there is no instance.
    refine ⟨?_, fun v => ?_, fun links hlinks => ?_⟩
    · rw [h.status_eq, h'.status_eq, he, he']
    · rw [h.check_eq, h'.check_eq, he, he']
      exact .same _
    · rw [h.status_eq, he] at hlinks
      exact absurd hlinks (Link.report_settle_error_ne_guarded e links)
  · have hne := Link.chain_ne_nil hchain (List.mem_append_right _ (List.mem_cons_self ..)) hguard
    have hne' : first ++ through ++ last ≠ [] := by
      intro hnil
      apply hne
      simp only [List.append_eq_nil_iff] at hnil
      simp [hnil]
    refine ⟨?_, fun v => ?_, fun links _ => ?_⟩
    · rw [h.status_eq, h'.status_eq, hchain, hchain']
      show Except.ok (Except.ok _) = Except.ok (Except.ok _)
      rw [SlotState.status_linked_below]
    · rw [h.check_eq, h'.check_eq, hchain, hchain']
      have hrelated := GuardInstance.forall₂_below first through last
        [Link.pathEntry realm.registry p]
      exact (runChain_below hrelated v).mapError Abort.panicked
    · exact ⟨target, first, through, last, hfirst, hthrough, hlast, h.linksTo _ hne hchain,
        h'.linksTo _ hne' hchain'⟩

/-- A definition that a realm gives lists the guards on the type. -/
theorem implied_eq_of_definitionFor {t : TypeId} (h : realm.Coherent c)
    (hdefined : (realm.definitionFor t).1 = .ok (some d)) :
    d.implied = c.registry.impliedOf t := by
  obtain ⟨_, heq, -⟩ := definitionFor_spec h t
  have hdef : c.registry.definition c.config t = .ok (some d) := by
    rw [heq] at hdefined
    exact hdefined
  exact (Registry.definition_eq_some hdef).2.1

/-- **Composition is transparent.** A guard that is not circular and carries no marker
    has a definition. Let `p` be an annotation of it, and take a slot that has `p`
    anywhere among its annotations. In a realm that differs in nothing but annotations
    on members, and has there the guards of the definition in place of `p`,

    1. the report on the slot is the same;
    2. a check of any value comes to the same, or to a violation that is the same but
       for the entry of `p` in front of its path;
    3. and it is just what comes through `p` that has this entry.

    Neither `p` nor these guards may be what makes the slot sensitive. -/
theorem composition_transparent (h : realm.Reached)
    (hguard : classify realm.registry p.type = .ok true)
    (hmarked : ¬ realm.registry.Marked p.type) :
    ∃ d, (realm.definitionFor p.type).1 = .ok (some d) ∧
      ∀ realm' t m m' place before after, realm.SameButAnnotations realm' →
        realm.registry.SameSlot realm'.registry t m m' place
          (before ++ p :: after) (before ++ d.implied ++ after) →
        p.type ≠ .sensitive → (∀ a ∈ d.implied, a.type ≠ .sensitive) →
        realm.SameThrough realm' ⟨t, realm.registry.signature m, place⟩ p
          before d.implied after := by
  have hisGuard : realm.context.registry.isGuard p.type = true := Registry.isGuard_iff.mpr hguard
  have hdefined : ∃ d, realm.context.registry.definition realm.context.config p.type =
      .ok (some d) ∧ d.marking = none :=
    Registry.exists_definition_of_not_marked hisGuard hmarked
  obtain ⟨d, hdef, hmarking⟩ := hdefined
  refine ⟨d, ?_, ?_⟩
  · obtain ⟨_, heq, -⟩ := definitionFor_spec h.coherent p.type
    rw [heq]
    exact hdef
  · intro realm' t m m' place before after hrealms hslot hp himplied
    have hsensitive := exists_sensitive_iff hp himplied before after
    obtain ⟨target, hanswers, hanswers'⟩ := hrealms.exists_target hslot hsensitive
    exact sameThrough_of_answersWith hslot.slot.size_pos hisGuard hdef hmarking hanswers hanswers'

end Realm

/-! ## The small program without the composed guard -/

namespace Sample

/-- A method with these annotations for its returned value. -/
def answerWith (annotations : List Annotation) : Member := { answer with annotations }

theorem sameButAnnotations_answerWith (own own' : List Annotation) :
    (realmWith (answerWith own)).SameButAnnotations (realmWith (answerWith own')) :=
  ⟨⟨⟨0⟩, _, {}, [], rfl⟩, ⟨⟨0⟩, _, {}, [], rfl⟩, rfl, rfl⟩

theorem sameSlot_answerWith (own own' : List Annotation) :
    (realmWith (answerWith own)).registry.SameSlot (realmWith (answerWith own')).registry service
      (answerWith own) (answerWith own') .returned own own' :=
  ⟨hasSlot_registryWith _ rfl, hasSlot_registryWith _ rfl, Registry.signature_congr rfl rfl⟩

end Sample

namespace Realm

/-- The composed guard of the small program, between an annotation that is no guard and
    the inner guard, may be replaced by the inner guard. -/
theorem composition_transparent_sample :
    (Sample.realmWith (Sample.answerWith
      [{ type := .documented }, { type := Sample.required }, { type := Sample.present }])).SameThrough
      (Sample.realmWith (Sample.answerWith
        [{ type := .documented }, { type := Sample.present }, { type := Sample.present }]))
      ⟨Sample.service, "answer(lang.Object)", .returned⟩ { type := Sample.required }
      [{ type := .documented }] [{ type := Sample.present }] [{ type := Sample.present }] := by
  have hrealms := Sample.sameButAnnotations_answerWith
    [{ type := .documented }, { type := Sample.required }, { type := Sample.present }]
    [{ type := .documented }, { type := Sample.present }, { type := Sample.present }]
  obtain ⟨d, hdefined, hsame⟩ :=
    composition_transparent (p := { type := Sample.required }) hrealms.reached rfl (by decide)
  have himplied : d.implied = [{ type := Sample.present }] :=
    implied_eq_of_definitionFor hrealms.reached.coherent hdefined
  rw [himplied] at hsame
  have hslot := Sample.sameSlot_answerWith
    [{ type := .documented }, { type := Sample.required }, { type := Sample.present }]
    [{ type := .documented }, { type := Sample.present }, { type := Sample.present }]
  have hplain : ∀ a ∈ [({ type := Sample.present } : Annotation)], a.type ≠ .sensitive := by
    simp [Sample.present, TypeId.sensitive]
  exact hsame _ _ _ _ _ [{ type := .documented }] [{ type := Sample.present }] hrealms hslot
    (by decide) hplain

end Realm

end AnnotationGuards
