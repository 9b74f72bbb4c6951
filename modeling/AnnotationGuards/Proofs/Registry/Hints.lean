import AnnotationGuards.Proofs.Registry.Skeleton

/-! # Ordering hints

    A guard marker may rank its guard and relate it to others. These hints are kept in the
    definition of the guard, and nothing that is done with definitions reads them.

    * `Registry.withoutHints`: the registry with the hints taken from its markers. Two
      registries for which this is the same differ in nothing but hints.
    * `Registry.SameGuards`: registries that may differ in hints, and in members as well.
    * `Registry.SameGuards.definition_eq`: their definitions differ in hints alone.
    * `Registry.SameGuards.outcome_eq`: and all links come to the same in them. -/

namespace AnnotationGuards

variable {σ : Type} {r r' : Registry σ}

/-! ## Taking the hints away -/

/-- The annotation; a marker without the ordering hints. -/
def Annotation.withoutHints (a : Annotation) : Annotation :=
  if a.type = .guardMarker then
    ⟨a.type, Entries.erase (Entries.erase a.attributes MarkerAttribute.relations)
      MarkerAttribute.order⟩
  else a

/-- The annotation type without the hints of its markers. -/
def AnnotationDef.withoutHints (d : AnnotationDef) : AnnotationDef :=
  { d with metas := d.metas.map Annotation.withoutHints }

/-- The registry without ordering hints on guard markers. -/
abbrev Registry.withoutHints (r : Registry σ) : Registry σ :=
  r.mapContents id AnnotationDef.withoutHints

/-- What a marker says, without the ordering hints. -/
def Marking.withoutHints (m : Marking) : Marking := { m with relations := [], order := 0 }

/-- The definition without the ordering hints. -/
def GuardDefinition.withoutHints (d : GuardDefinition) : GuardDefinition :=
  { d with marking := d.marking.map Marking.withoutHints }

/-- The definition of a type without the ordering hints; an error as it is. -/
def DefinitionResult.withoutHints (result : DefinitionResult) : DefinitionResult :=
  result.map (Option.map GuardDefinition.withoutHints)

/-! ## Markers -/

namespace Annotation

@[simp] theorem type_withoutHints (a : Annotation) : a.withoutHints.type = a.type := by
  unfold withoutHints
  split <;> rfl

/-- All that is written on a marker is still there, but for the hints. -/
theorem get?_withoutHints (a : Annotation) {name : String}
    (hrelations : MarkerAttribute.relations ≠ name) (horder : MarkerAttribute.order ≠ name) :
    a.withoutHints.get? name = a.get? name := by
  unfold withoutHints get?
  split
  · rw [Entries.get?_erase_of_ne _ horder, Entries.get?_erase_of_ne _ hrelations]
  · rfl

@[simp] theorem skeleton_withoutHints (a : Annotation) : a.withoutHints.skeleton = a.skeleton := by
  unfold skeleton
  rw [type_withoutHints]
  split
  · rfl
  · next h => exact if_neg h

end Annotation

namespace Registry

variable (r) (config : GuardConfig) (t : TypeId) (marker : Annotation)

theorem attribute?_withoutHints {name : String} (hrelations : MarkerAttribute.relations ≠ name)
    (horder : MarkerAttribute.order ≠ name) :
    r.attribute? marker.withoutHints name = r.attribute? marker name := by
  unfold attribute?
  rw [marker.get?_withoutHints hrelations horder, Annotation.type_withoutHints]

/-- The hints have no part in the lookup of a handler. -/
theorem resolveHandler_withoutHints :
    r.resolveHandler config t marker.withoutHints = r.resolveHandler config t marker := by
  have hexplicit : r.explicitHandler? marker.withoutHints = r.explicitHandler? marker := by
    unfold explicitHandler?
    rw [r.attribute?_withoutHints marker (by decide) (by decide)]
  unfold resolveHandler
  rw [hexplicit]

/-- Without the hints a marker says what it says with them, but for the hints. -/
theorem readMarker_withoutHints :
    (GuardDefinition.readMarker r config t marker.withoutHints).map Marking.withoutHints =
      (GuardDefinition.readMarker r config t marker).map Marking.withoutHints := by
  have hmessage : r.attribute? marker.withoutHints MarkerAttribute.message =
      r.attribute? marker MarkerAttribute.message :=
    r.attribute?_withoutHints marker (by decide) (by decide)
  have htestsNull : r.attribute? marker.withoutHints MarkerAttribute.testsNull =
      r.attribute? marker MarkerAttribute.testsNull :=
    r.attribute?_withoutHints marker (by decide) (by decide)
  unfold GuardDefinition.readMarker
  rw [resolveHandler_withoutHints]
  cases r.resolveHandler config t marker with
  | error e => rfl
  | ok h =>
    show Except.ok (Marking.withoutHints _) = Except.ok (Marking.withoutHints _)
    simp only [Marking.withoutHints, hmessage, htestsNull]

/-- So does the definition that is assembled from it. -/
theorem assemble_withoutHints (metas implied : List Annotation) :
    (GuardDefinition.assemble r config t (metas.map Annotation.withoutHints) implied).map
        GuardDefinition.withoutHints =
      (GuardDefinition.assemble r config t metas implied).map GuardDefinition.withoutHints := by
  have hfind : (metas.map Annotation.withoutHints).find? (fun a => a.type = .guardMarker) =
      (metas.find? fun a => a.type = .guardMarker).map Annotation.withoutHints := by
    rw [List.find?_map]
    simp only [Function.comp_def, Annotation.type_withoutHints]
  unfold GuardDefinition.assemble
  rw [hfind]
  cases metas.find? fun a => a.type = .guardMarker with
  | none => rfl
  | some marker =>
    have hread := r.readMarker_withoutHints config t marker
    dsimp only [Option.map_some]
    rcases h : GuardDefinition.readMarker r config t marker with e | marking
    all_goals rcases h' : GuardDefinition.readMarker r config t marker.withoutHints with e' | marking'
    all_goals rw [h, h'] at hread
    · exact congrArg _ (congrArg _ (Except.error.inj hread))
    · cases hread
    · cases hread
    · have hmarking : marking'.withoutHints = marking.withoutHints := Except.ok.inj hread
      show Except.ok (GuardDefinition.withoutHints _) = Except.ok (GuardDefinition.withoutHints _)
      simp only [GuardDefinition.withoutHints, Option.map_some, hmarking]

theorem assemble_skeleton (metas implied : List Annotation) :
    GuardDefinition.assemble r.skeleton config t metas implied =
      GuardDefinition.assemble r config t metas implied := by
  simp [GuardDefinition.assemble]

end Registry

/-! ## Registries -/

theorem AnnotationDef.skeleton_withoutHints (d : AnnotationDef) :
    d.withoutHints.skeleton = d.skeleton := by
  simp [withoutHints, skeleton]

namespace Registry

variable (r) (t : TypeId)

/-- Hints are no part of the skeleton. -/
@[simp] theorem skeleton_withoutHints : r.withoutHints.skeleton = r.skeleton := by
  have hdeclared : AnnotationDef.skeleton ∘ AnnotationDef.withoutHints = AnnotationDef.skeleton :=
    funext AnnotationDef.skeleton_withoutHints
  unfold skeleton withoutHints
  rw [mapContents_mapContents, hdeclared, Function.comp_id]

@[simp] theorem metas_withoutHints :
    r.withoutHints.metas t = (r.metas t).map Annotation.withoutHints :=
  r.metas_mapContents id t fun _ => rfl

/-- The guards of two registries are the same, but for ordering hints. They may differ in
    the members of classes as well. -/
structure SameGuards (r r' : Registry σ) : Prop where
  skeleton_eq : r'.skeleton = r.skeleton
  metas_eq : ∀ t, (r'.metas t).map Annotation.withoutHints =
    (r.metas t).map Annotation.withoutHints

/-- Registries that differ in hints alone have the same guards. -/
theorem sameGuards_of_withoutHints_eq {r r' : Registry σ} (h : r'.withoutHints = r.withoutHints) :
    r.SameGuards r' where
  skeleton_eq := by
    rw [← r'.skeleton_withoutHints, h, r.skeleton_withoutHints]
  metas_eq := by
    intro t
    rw [← r'.metas_withoutHints, h, r.metas_withoutHints]

end Registry

/-! ## Definitions -/

@[simp] theorem GuardDefinition.implied_withoutHints (d : GuardDefinition) :
    d.withoutHints.implied = d.implied := rfl

/-- Definitions that are the same without hints are the same in all but these. -/
theorem DefinitionResult.withoutHints_cases {result result' : DefinitionResult}
    (h : result'.withoutHints = result.withoutHints) :
    (∃ e, result = .error e ∧ result' = .error e) ∨ (result = .ok none ∧ result' = .ok none) ∨
      ∃ d d', result = .ok (some d) ∧ result' = .ok (some d') ∧
        d'.withoutHints = d.withoutHints := by
  rcases result with e | (_ | d)
  · rcases result' with e' | d'
    · exact Or.inl ⟨e', congrArg _ (Except.error.inj h).symm, rfl⟩
    · cases h
  · rcases result' with e' | (_ | d')
    · cases h
    · exact Or.inr (Or.inl ⟨rfl, rfl⟩)
    · cases h
  · rcases result' with e' | (_ | d')
    · cases h
    · cases h
    · exact Or.inr (Or.inr ⟨d, d', rfl, rfl, Option.some.inj (Except.ok.inj h)⟩)

namespace Registry.SameGuards

theorem classify_eq (h : r.SameGuards r') (t : TypeId) : classify r' t = classify r t := by
  rw [← classify_skeleton r', h.skeleton_eq, classify_skeleton]

theorem qualifiedName_eq (h : r.SameGuards r') : r'.qualifiedName = r.qualifiedName := by
  simpa using congrArg qualifiedName h.skeleton_eq

/-- A guard is composed of the same guards in both registries. -/
theorem impliedOf_eq (h : r.SameGuards r') {t : TypeId} (hguard : r.isGuard t = true)
    (hguard' : r'.isGuard t = true) : r'.impliedOf t = r.impliedOf t := by
  -- The search does not fail on the metas of a guard, and it finds the same in the skeleton.
  have hfound := r.impliedGuards_skeleton (r.metas t)
  have hfound' := r'.impliedGuards_skeleton (r'.metas t)
  rw [← metas_skeleton, impliedGuards_of_isGuard hguard] at hfound
  rw [← metas_skeleton, h.skeleton_eq, hfound, impliedGuards_of_isGuard hguard'] at hfound'
  exact (Except.ok.inj hfound').symm

theorem assemble_eq (h : r.SameGuards r') (config : GuardConfig) (t : TypeId)
    (implied : List Annotation) :
    (GuardDefinition.assemble r' config t (r'.metas t) implied).map GuardDefinition.withoutHints =
      (GuardDefinition.assemble r config t (r.metas t) implied).map
        GuardDefinition.withoutHints := by
  rw [← r'.assemble_withoutHints, h.metas_eq, ← r'.assemble_skeleton, h.skeleton_eq,
    r.assemble_skeleton, r.assemble_withoutHints]

/-- **Definitions differ in hints alone**: those of a type in both registries are the same
    without them, and if one is an error, so is the other. -/
theorem definition_eq (h : r.SameGuards r') (config : GuardConfig) (t : TypeId) :
    (r'.definition config t).withoutHints = (r.definition config t).withoutHints := by
  -- Both verdicts are the same, and each of the three leads to its own kind of definition.
  have hsame := h.classify_eq t
  rcases hc : classify r t with e | (_ | _)
  all_goals rw [hc] at hsame
  · rw [definition_of_error hc, definition_of_error hsame, h.qualifiedName_eq]
  · rw [definition_eq_none_iff.mpr hc, definition_eq_none_iff.mpr hsame]
  · have hguard := isGuard_iff.mpr hc
    have hguard' := isGuard_iff.mpr hsame
    have hassemble := h.assemble_eq config t (r.impliedOf t)
    rw [definition_of_isGuard hguard, definition_of_isGuard hguard', h.impliedOf_eq hguard hguard']
    have hsome : ∀ result : Except GuardError GuardDefinition,
        DefinitionResult.withoutHints (some <$> result) =
          some <$> result.map GuardDefinition.withoutHints := by
      intro result
      cases result <;> rfl
    rw [hsome, hsome, hassemble]

end Registry.SameGuards

/-! ## Links -/

namespace Link

variable {config : GuardConfig} (target : Target)

/-- The hints have no part in what a guard contributes. -/
theorem contributeOwn_withoutHints (c : LinkContext σ) (path : List String) (a : Annotation)
    (d : GuardDefinition) :
    contributeOwn c target path a d.withoutHints = contributeOwn c target path a d := by
  obtain ⟨type, name, marking, implied⟩ := d
  cases marking <;> rfl

theorem contributeOwn_eq (h : r.SameGuards r') (path : List String) (a : Annotation)
    {d d' : GuardDefinition} (hd : d'.withoutHints = d.withoutHints) :
    contributeOwn ⟨r', config⟩ target path a d' = contributeOwn ⟨r, config⟩ target path a d := by
  rw [← contributeOwn_withoutHints, hd, contributeOwn_withoutHints, ← contributeOwn_skeleton,
    h.skeleton_eq, contributeOwn_skeleton]

end Link

namespace Registry.SameGuards

open Link

/-- **What an annotation contributes** to the chain of a target is the same in both
    registries. The induction is on how deep guards are composed. -/
theorem contribute_eq (h : r.SameGuards r') (config : GuardConfig) (target : Target)
    (depth : Nat) :
    contribute ⟨r', config⟩ target depth = contribute ⟨r, config⟩ target depth := by
  have hname : r'.simpleName = r.simpleName := by
    simpa using congrArg Registry.simpleName h.skeleton_eq
  induction depth with
  | zero => rfl
  | succ depth ih =>
    funext path a
    rcases DefinitionResult.withoutHints_cases (h.definition_eq config a.type) with
      ⟨e, he, he'⟩ | ⟨hnone, -⟩ | ⟨d, d', hsome, hsome', hd⟩
    · exact (contribute_of_faulty (c := ⟨r', config⟩) he').trans
        (contribute_of_faulty (c := ⟨r, config⟩) he).symm
    · have hclass : classify r a.type = .ok false := definition_eq_none_iff.mp hnone
      have hclass' : classify r' a.type = .ok false := (h.classify_eq a.type).trans hclass
      exact (contribute_of_not_guard (c := ⟨r', config⟩) hclass').trans
        (contribute_of_not_guard (c := ⟨r, config⟩) hclass).symm
    · have himplied : d'.implied = d.implied := by
        rw [← d'.implied_withoutHints, hd, d.implied_withoutHints]
      rw [contribute_of_definition (c := ⟨r', config⟩) hsome',
        contribute_of_definition (c := ⟨r, config⟩) hsome, ih]
      dsimp only
      rw [hname, himplied, contributeOwn_eq target h _ a hd]

/-- So the contribution of a whole slot is the same, code that it runs included. -/
theorem contributeAll_eq (h : r.SameGuards r') (config : GuardConfig) (guards : SlotGuards) :
    contributeAll ⟨r', config⟩ guards = contributeAll ⟨r, config⟩ guards := by
  have hsize : r'.size = r.size := by
    simpa using congrArg Registry.size h.skeleton_eq
  unfold contributeAll
  rw [hsize, h.contribute_eq]

/-- **Links come to the same** in both registries. -/
theorem outcome_eq (h : r.SameGuards r') (config : GuardConfig) (guards : SlotGuards) :
    outcome ⟨r', config⟩ guards = outcome ⟨r, config⟩ guards := by
  unfold outcome
  rw [h.contributeAll_eq]
  rfl

end Registry.SameGuards

end AnnotationGuards
