import AnnotationGuards.Guard.Definition
import AnnotationGuards.Proofs.Guard.Classification

/-! # Definitions and the tables behind them

    The engine keeps verdicts and definitions in tables. Here they are worked out
    anew each time, and the tables are shown to hold nothing else.

    * `Registry.definition`: the definition of a type, from the registry alone.
    * `DefinitionTable.definitionFor_eq`: with any table that agrees with the
      registry, the answer is that definition, and the table still agrees.
    * `Registry.definition_eq_some` and `Registry.definition_eq_none_iff`:
      what a definition says about the type.
    * `Registry.Implies`: one guard is composed of another. It is a step along
      the metas, so it never leads back to where it began. -/

namespace AnnotationGuards

open Relation

variable {σ : Type} {r : Registry σ} {config : GuardConfig} {t m : TypeId}

/-! ## Without tables -/

namespace Registry

/-- Whether the type is a guard. A circular type is none. -/
def isGuard (r : Registry σ) (t : TypeId) : Bool :=
  match classify r t with
  | .ok guard => guard
  | .error _ => false

/-- Whether an annotation calls for a guard at its slot: its type is a guard or
    a circular one. -/
def isGuardLike (r : Registry σ) (a : Annotation) : Bool :=
  match classify r a.type with
  | .ok guard => guard
  | .error _ => true

/-- Whether metas of this type are passed over without asking for a verdict. -/
def isSilentMeta (t : TypeId) : Bool := t = .guardMarker || t.isLanguageMeta

/-- The guard annotations among metas, up to the first circular one. -/
def impliedGuards (r : Registry σ) : List Annotation → Except Circularity (List Annotation)
  | [] => .ok []
  | a :: rest =>
    if isSilentMeta a.type then impliedGuards r rest
    else
      match classify r a.type with
      | .error cycle => .error cycle
      | .ok guard => (fun found => if guard then a :: found else found) <$> impliedGuards r rest

/-- The definition of a type. -/
def definition (r : Registry σ) (config : GuardConfig) (t : TypeId) : DefinitionResult :=
  match classify r t with
  | .error cycle => .error (.circular (r.qualifiedName t) cycle)
  | .ok false => .ok none
  | .ok true =>
    match r.annotation? t with
    | none => .error (.unknownType t)
    | some d =>
      match r.impliedGuards d.metas with
      | .error cycle => .error (.circular (r.qualifiedName t) cycle)
      | .ok implied => some <$> GuardDefinition.assemble r config t d.metas implied

end Registry

/-! ## Tables that agree with the registry -/

/-- The verdicts are those that the registry gives. -/
abbrev VerdictTable.Coherent (r : Registry σ) (table : VerdictTable) : Prop :=
  Entries.Agrees table (classify r)

/-- The verdicts and definitions are those that the registry gives. -/
structure DefinitionTable.Coherent (r : Registry σ) (config : GuardConfig)
    (table : DefinitionTable) : Prop where
  verdicts : table.verdicts.Coherent r
  definitions : Entries.Agrees table.definitions (r.definition config)

theorem DefinitionTable.coherent_empty (r : Registry σ) (config : GuardConfig) :
    DefinitionTable.Coherent r config {} :=
  ⟨Entries.agrees_nil _, Entries.agrees_nil _⟩

theorem VerdictTable.isGuard_eq {table : VerdictTable} (h : table.Coherent r) (t : TypeId) :
    ∃ table', VerdictTable.isGuard r table t = (classify r t, table') ∧ table'.Coherent r := by
  unfold VerdictTable.isGuard
  cases hget : Entries.get? table t with
  | some verdict => exact ⟨table, by rw [h t verdict hget], h⟩
  | none => exact ⟨_, rfl, h.put t⟩

theorem VerdictTable.isGuardLike_eq {table : VerdictTable} (h : table.Coherent r)
    (a : Annotation) :
    ∃ table', VerdictTable.isGuardLike r table a = (r.isGuardLike a, table') ∧
      table'.Coherent r := by
  obtain ⟨table', heq, h'⟩ := VerdictTable.isGuard_eq h a.type
  refine ⟨table', ?_, h'⟩
  unfold VerdictTable.isGuardLike Registry.isGuardLike
  rw [heq]
  cases classify r a.type <;> rfl

theorem VerdictTable.anyGuardLike_eq {table : VerdictTable} (h : table.Coherent r)
    (annotations : List Annotation) :
    ∃ table', VerdictTable.anyGuardLike r table annotations =
      (annotations.any r.isGuardLike, table') ∧ table'.Coherent r := by
  induction annotations generalizing table with
  | nil => exact ⟨table, rfl, h⟩
  | cons a rest ih =>
    obtain ⟨table', heq, h'⟩ := VerdictTable.isGuardLike_eq h a
    unfold VerdictTable.anyGuardLike
    rw [heq, List.any_cons]
    cases r.isGuardLike a with
    | true => exact ⟨table', rfl, h'⟩
    | false =>
      obtain ⟨table'', heq', h''⟩ := ih h'
      exact ⟨table'', by simp only [heq', Bool.false_or], h''⟩

theorem GuardDefinition.impliedGuards_eq {table : VerdictTable} (h : table.Coherent r)
    (metas : List Annotation) :
    ∃ table', GuardDefinition.impliedGuards r table metas = (r.impliedGuards metas, table') ∧
      table'.Coherent r := by
  induction metas generalizing table with
  | nil => exact ⟨table, rfl, h⟩
  | cons a rest ih =>
    unfold GuardDefinition.impliedGuards Registry.impliedGuards Registry.isSilentMeta
    by_cases hsilent : (a.type = .guardMarker || a.type.isLanguageMeta) = true
    · rw [if_pos hsilent, if_pos hsilent]
      exact ih h
    · rw [if_neg hsilent, if_neg hsilent]
      obtain ⟨table', heq, h'⟩ := VerdictTable.isGuard_eq h a.type
      rw [heq]
      cases classify r a.type with
      | error cycle => exact ⟨table', rfl, h'⟩
      | ok guard =>
        obtain ⟨table'', heq', h''⟩ := ih h'
        refine ⟨table'', ?_, h''⟩
        simp only [heq']
        cases r.impliedGuards rest <;> rfl

theorem GuardDefinition.build_eq {table : VerdictTable} (h : table.Coherent r)
    (config : GuardConfig) (t : TypeId) :
    ∃ table', GuardDefinition.build r config table t = (r.definition config t, table') ∧
      table'.Coherent r := by
  obtain ⟨table', heq, h'⟩ := VerdictTable.isGuard_eq h t
  unfold GuardDefinition.build Registry.definition
  rw [heq]
  rcases classify r t with cycle | (_ | _)
  · exact ⟨table', rfl, h'⟩
  · exact ⟨table', rfl, h'⟩
  · cases r.annotation? t with
    | none => exact ⟨table', rfl, h'⟩
    | some d =>
      obtain ⟨table'', heq', h''⟩ := GuardDefinition.impliedGuards_eq h' d.metas
      refine ⟨table'', ?_, h''⟩
      simp only [heq']
      cases r.impliedGuards d.metas <;> rfl

/-- **The table changes no definition**: whatever has been worked out before, the
    answer is the definition that the registry gives. -/
theorem DefinitionTable.definitionFor_eq {table : DefinitionTable} (h : table.Coherent r config)
    (t : TypeId) :
    ∃ table', DefinitionTable.definitionFor r config table t = (r.definition config t, table') ∧
      table'.Coherent r config := by
  unfold DefinitionTable.definitionFor
  cases hget : Entries.get? table.definitions t with
  | some result => exact ⟨table, by rw [h.definitions t result hget], h⟩
  | none =>
    obtain ⟨verdicts, heq, hv⟩ := GuardDefinition.build_eq h.verdicts config t
    simp only [heq]
    -- What is put into the table is the definition itself, errors included.
    exact ⟨_, rfl, hv, h.definitions.put t⟩

theorem DefinitionTable.isGuard_eq {table : DefinitionTable} (h : table.Coherent r config)
    (t : TypeId) :
    ∃ table', DefinitionTable.isGuard r table t = (classify r t, table') ∧
      table'.Coherent r config := by
  obtain ⟨verdicts, heq, hv⟩ := VerdictTable.isGuard_eq h.verdicts t
  refine ⟨{ table with verdicts }, ?_, hv, h.definitions⟩
  unfold DefinitionTable.isGuard
  rw [heq]

/-! ## What a definition says -/

namespace Registry

theorem isGuard_iff : r.isGuard t = true ↔ classify r t = .ok true := by
  unfold isGuard
  rcases classify r t with e | (_ | _) <;> simp

theorem isGuardLike_eq_false_iff {a : Annotation} :
    r.isGuardLike a = false ↔ classify r a.type = .ok false := by
  unfold isGuardLike
  rcases classify r a.type with e | (_ | _) <;> simp

theorem isAnnotation_of_isGuard (h : r.isGuard t = true) : r.isAnnotation t = true :=
  (classify_eq_ok_true_iff.mp (isGuard_iff.mp h)).1

/-- The guard annotations on a type, in order: those that a guard is composed of. -/
def impliedOf (r : Registry σ) (t : TypeId) : List Annotation :=
  (r.metas t).filter fun a => !isSilentMeta a.type && r.isGuard a.type

theorem mem_impliedOf {a : Annotation} : a ∈ r.impliedOf t ↔
    a ∈ r.metas t ∧ isSilentMeta a.type = false ∧ r.isGuard a.type = true := by
  simp [impliedOf]

theorem isSilentMeta_eq_false_iff :
    isSilentMeta m = false ↔ m ≠ .guardMarker ∧ m ∉ TypeId.languageMetas := by
  simp [isSilentMeta, TypeId.isLanguageMeta]

/-- What a guard is composed of is a step along the metas. -/
theorem metaStep_of_mem_impliedOf {a : Annotation} (h : a ∈ r.impliedOf t) :
    r.MetaStep t a.type := by
  obtain ⟨hmem, hsilent, hguard⟩ := mem_impliedOf.mp h
  exact ⟨isAnnotation_of_mem_metas hmem, ⟨a, hmem, rfl⟩, isAnnotation_of_isGuard hguard,
    isSilentMeta_eq_false_iff.mp hsilent⟩

/-- A meta of a guard is not circular, or the guard would be circular itself. -/
theorem classify_meta_of_isGuard (h : r.isGuard t = true) {a : Annotation} (ha : a ∈ r.metas t)
    (hsilent : isSilentMeta a.type = false) : classify r a.type = .ok (r.isGuard a.type) := by
  unfold isGuard
  cases hc : classify r a.type with
  | ok guard => rfl
  | error e =>
    -- The cycle that the meta leads to is one that the guard leads to as well.
    obtain ⟨hann, hcycle⟩ := exists_classify_eq_error_iff.mp ⟨e, hc⟩
    have hstep : r.MetaStep t a.type := ⟨isAnnotation_of_mem_metas ha, ⟨a, ha, rfl⟩, hann,
      isSilentMeta_eq_false_iff.mp hsilent⟩
    have hno := (classify_eq_ok_true_iff.mp (isGuard_iff.mp h)).2.2
    exact absurd (hcycle.of_reach (ReflTransGen.single hstep)) hno

/-- The search for implied guards does not fail on the metas of a guard. -/
theorem impliedGuards_eq_ok {metas : List Annotation}
    (h : ∀ a ∈ metas, isSilentMeta a.type = false → classify r a.type = .ok (r.isGuard a.type)) :
    r.impliedGuards metas =
      .ok (metas.filter fun a => !isSilentMeta a.type && r.isGuard a.type) := by
  induction metas with
  | nil => rfl
  | cons a rest ih =>
    have hrest := ih fun b hb => h b (List.mem_cons_of_mem _ hb)
    unfold impliedGuards
    cases hsilent : isSilentMeta a.type with
    | true => simp [hsilent, hrest]
    | false =>
      have ha := h a (List.mem_cons_self ..) hsilent
      cases hguard : r.isGuard a.type <;> simp [hsilent, hguard, ha, hrest]

theorem impliedGuards_of_isGuard (h : r.isGuard t = true) :
    r.impliedGuards (r.metas t) = .ok (r.impliedOf t) :=
  impliedGuards_eq_ok fun _ ha hsilent => classify_meta_of_isGuard h ha hsilent

/-- The definition of a guard is assembled from its metas; only its handler can
    be at fault. -/
theorem definition_of_isGuard (h : r.isGuard t = true) : r.definition config t =
    some <$> GuardDefinition.assemble r config t (r.metas t) (r.impliedOf t) := by
  have himplied := impliedGuards_of_isGuard h
  have hann := isAnnotation_of_isGuard h
  unfold isAnnotation at hann
  obtain ⟨d, hd⟩ := Option.isSome_iff_exists.mp hann
  have hmetas : r.metas t = d.metas := by
    unfold metas
    rw [hd]
  rw [hmetas] at himplied ⊢
  unfold definition
  simp only [isGuard_iff.mp h, hd, himplied]

theorem definition_of_error {e : Circularity} (h : classify r t = .error e) :
    r.definition config t = .error (.circular (r.qualifiedName t) e) := by
  unfold definition
  rw [h]

/-- What a definition that was assembled says. -/
theorem assemble_eq_ok {metas implied : List Annotation} {d : GuardDefinition}
    (h : GuardDefinition.assemble r config t metas implied = .ok d) :
    d.type = t ∧ d.implied = implied ∧
      (d.marking.isSome = true ↔ ∃ a ∈ metas, a.type = .guardMarker) := by
  unfold GuardDefinition.assemble at h
  cases hfind : metas.find? fun a => a.type = .guardMarker with
  | none =>
    rw [hfind] at h
    cases h
    refine ⟨rfl, rfl, ?_⟩
    have hnone := List.find?_eq_none.mp hfind
    simpa using hnone
  | some marker =>
    rw [hfind] at h
    dsimp only at h
    cases hread : GuardDefinition.readMarker r config t marker with
    | error e => rw [hread] at h; cases h
    | ok marking =>
      rw [hread] at h
      cases h
      refine ⟨rfl, rfl, ?_⟩
      have hmarker : marker.type = .guardMarker := by simpa using List.find?_some hfind
      simp only [Option.isSome_some, true_iff]
      exact ⟨marker, List.mem_of_find?_eq_some hfind, hmarker⟩

/-- There is no definition exactly of the types that are no guards. -/
theorem definition_eq_none_iff :
    r.definition config t = .ok none ↔ classify r t = .ok false := by
  constructor
  · intro h
    rcases hc : classify r t with e | (_ | _)
    · rw [definition_of_error hc] at h
      cases h
    · rfl
    · rw [definition_of_isGuard (isGuard_iff.mpr hc)] at h
      cases ha : GuardDefinition.assemble r config t (r.metas t) (r.impliedOf t) with
      | error e => rw [ha] at h; cases h
      | ok d => rw [ha] at h; cases h
  · intro h
    unfold definition
    rw [h]

/-- A definition is one of a guard, lists the guards on it, and has a marking
    exactly if the type carries the marker. -/
theorem definition_eq_some {d : GuardDefinition} (h : r.definition config t = .ok (some d)) :
    r.isGuard t = true ∧ d.implied = r.impliedOf t ∧ (d.marking.isSome = true ↔ r.Marked t) := by
  have hguard : r.isGuard t = true := by
    rw [isGuard_iff]
    rcases hc : classify r t with e | (_ | _)
    · rw [definition_of_error hc] at h
      cases h
    · rw [definition_eq_none_iff.mpr hc] at h
      cases h
    · rfl
  rw [definition_of_isGuard hguard] at h
  cases ha : GuardDefinition.assemble r config t (r.metas t) (r.impliedOf t) with
  | error e => rw [ha] at h; cases h
  | ok d' =>
    rw [ha] at h
    cases h
    obtain ⟨-, himplied, hmarking⟩ := assemble_eq_ok ha
    exact ⟨hguard, himplied, hmarking⟩

/-- A guard without a marker has a definition: it needs no handler of its own. -/
theorem exists_definition_of_not_marked (h : r.isGuard t = true) (hmarked : ¬ r.Marked t) :
    ∃ d, r.definition config t = .ok (some d) ∧ d.marking = none := by
  have hnone : (r.metas t).find? (fun a => a.type = .guardMarker) = none := by
    rw [List.find?_eq_none]
    intro a ha hmarker
    exact hmarked ⟨a, ha, of_decide_eq_true hmarker⟩
  rw [definition_of_isGuard h]
  unfold GuardDefinition.assemble
  rw [hnone]
  exact ⟨_, rfl, rfl⟩

/-! ## Guards composed of guards -/

/-- A guard that does not carry the marker is composed of some guard: the next one
    on its way to a type that does. -/
theorem impliedOf_ne_nil (h : r.isGuard t = true) (hmarked : ¬ r.Marked t) :
    r.impliedOf t ≠ [] := by
  obtain ⟨-, ⟨k, hreach, hk⟩, -⟩ := classify_eq_ok_true_iff.mp (isGuard_iff.mp h)
  rcases ReflTransGen.cases_head hreach with rfl | ⟨m, hstep, hrest⟩
  · exact absurd hk hmarked
  · -- The first step is to a meta that leads to the marked type, so it is a guard.
    obtain ⟨-, ⟨a, ha, rfl⟩, hann, hnot⟩ := hstep
    have hsilent : isSilentMeta a.type = false := isSilentMeta_eq_false_iff.mpr hnot
    have hverdict := classify_meta_of_isGuard h ha hsilent
    have hguard : r.isGuard a.type = true := by
      cases hfalse : r.isGuard a.type with
      | true => rfl
      | false =>
        rw [hfalse] at hverdict
        rcases classify_eq_ok_false_iff.mp hverdict with hno | hno
        · exact absurd hann hno
        · exact absurd ⟨k, hrest, hk⟩ hno
    exact List.ne_nil_of_mem (mem_impliedOf.mpr ⟨ha, hsilent, hguard⟩)

/-- The guard `t` is composed of guards of type `m`, among others. -/
def Implies (r : Registry σ) (t m : TypeId) : Prop :=
  r.isGuard t = true ∧ ∃ a ∈ r.impliedOf t, a.type = m

theorem Implies.metaStep (h : r.Implies t m) : r.MetaStep t m := by
  obtain ⟨-, a, ha, rfl⟩ := h
  exact metaStep_of_mem_impliedOf ha

theorem Implies.isGuard (h : r.Implies t m) : r.isGuard m = true := by
  obtain ⟨-, a, ha, rfl⟩ := h
  exact (mem_impliedOf.mp ha).2.2

/-- **Composition is well founded**: no guard is composed of itself, at any depth,
    since the classification refuses every type from which a cycle of guards
    can be reached. -/
theorem not_transGen_implies (r : Registry σ) (t : TypeId) : ¬ TransGen r.Implies t t := by
  intro h
  obtain ⟨m, hfirst, -⟩ := TransGen.head'_iff.mp h
  -- The way back is a cycle of metas among guards.
  have hsteps : TransGen r.MetaStep t t := TransGen.mono (fun _ _ hs => Implies.metaStep hs) t t h
  obtain ⟨-, hmarked, hno⟩ := classify_eq_ok_true_iff.mp (isGuard_iff.mp hfirst.1)
  exact hno (leadsToGuardCycle_iff.mpr ⟨t, ReflTransGen.refl, hsteps, hmarked⟩)

end Registry

end AnnotationGuards
