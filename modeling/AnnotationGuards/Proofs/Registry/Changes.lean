import AnnotationGuards.Registry.Changes

/-! # What changes do to a registry

    A change is either refused, and then nothing has changed, or it adds one type under
    the next identity, or it puts another content of the same sort in the place of a
    type's content.

    * `Registry.attempt_eq`: a change carried out in place, step by step, comes to the
      same as the change of the registry as a value.
    * `Registry.Effect`: the three things that a change can come to.
    * **`Registry.attempt_effect`**: every change comes to one of them.
    * `Registry.GrowsTo`: types are only added, and keep what they were declared as; every
      run of changes leads there. -/

namespace AnnotationGuards

variable {σ α : Type} {r r' r'' : Registry σ} {t : TypeId}

/-! ## Contents of one sort -/

/-- Both contents are of a class, both of an annotation type, both of one primitive, or
    both void. -/
inductive TypeKind.SameSort : TypeKind σ → TypeKind σ → Prop
  | void : SameSort .void .void
  | primitive (p : Primitive) : SameSort (.primitive p) (.primitive p)
  | classType (c c' : ClassDef σ) : SameSort (.classType c) (.classType c')
  | annotationType (d d' : AnnotationDef) : SameSort (.annotationType d) (.annotationType d')

namespace TypeKind.SameSort

theorem refl (kind : TypeKind σ) : kind.SameSort kind := by
  cases kind <;> constructor

theorem trans {a b c : TypeKind σ} (h : a.SameSort b) (h' : b.SameSort c) : a.SameSort c := by
  cases h <;> cases h' <;> constructor

end TypeKind.SameSort

/-- The two declarations have one name at one place, and contents of one sort. -/
structure TypeDef.SameDeclaration (d d' : TypeDef σ) : Prop where
  name : d'.name = d.name
  package : d'.package = d.package
  enclosing : d'.enclosing = d.enclosing
  sort : d.kind.SameSort d'.kind

namespace TypeDef.SameDeclaration

variable {d d' d'' : TypeDef σ}

theorem refl (d : TypeDef σ) : d.SameDeclaration d := ⟨rfl, rfl, rfl, .refl _⟩

theorem trans (h : d.SameDeclaration d') (h' : d'.SameDeclaration d'') : d.SameDeclaration d'' where
  name := h'.name.trans h.name
  package := h'.package.trans h.package
  enclosing := h'.enclosing.trans h.enclosing
  sort := h.sort.trans h'.sort

end TypeDef.SameDeclaration

namespace Registry

/-! ## Changes in place and changes of a value -/

/-- A change of the registry as a value, taken as one in place: where it is refused, the
    registry stays. -/
def settle (r : Registry σ) :
    Except RegistryError (α × Registry σ) → Except RegistryError α × Registry σ
  | .ok (a, r') => (.ok a, r')
  | .error e => (.error e, r)

theorem runOn_push (r : Registry σ) (d : TypeDef σ) :
    (RegistryM.push d).runOn r = r.settle (r.declare d) := by
  by_cases h : Entries.contains r.names (r.nameOf d) = true
  · simp [RegistryM.push, declare, settle, h]
  · simp [RegistryM.push, declare, settle, h]

theorem runOn_pushNested (r : Registry σ) (outer : TypeId) (name : String) (c : ClassDef σ) :
    (RegistryM.pushNested outer name c).runOn r = r.settle (r.declareNested outer name c) := by
  cases h : r.get? outer with
  | none => simp [RegistryM.pushNested, declareNested, settle, h]
  | some d => simp [RegistryM.pushNested, declareNested, h, runOn_push]

theorem runOn_some {x : RegistryM σ TypeId} {y : Except RegistryError (TypeId × Registry σ)}
    (h : x.runOn r = r.settle y) :
    (some <$> x).runOn r = r.settle (y.map (Prod.map some id)) := by
  rw [RegistryM.runOn_map, h]
  rcases y with _ | ⟨_, _⟩ <;> rfl

/-- Of two contents put in the same place the second stays. -/
theorem setKind_setKind (r : Registry σ) (t : TypeId) (kind kind' : TypeKind σ) :
    (r.setKind t kind).setKind t kind' = r.setKind t kind' := by
  simp [setKind, List.modify_modify_eq, Function.comp_def]

theorem runOn_updateClass {x : ClassDef σ → RegistryM σ (Option TypeId)}
    {f : ClassDef σ → ClassDef σ}
    (h : ∀ c, (x c).runOn r = (.ok none, r.setKind t (.classType (f c)))) :
    (RegistryM.classAt t >>= x).runOn r = r.settle ((r.updateClass t f).map (Prod.mk none)) := by
  cases hget : r.get? t with
  | none => simp [RegistryM.classAt, updateClass, hget, settle, Except.map]
  | some d =>
    cases hkind : d.kind <;>
      simp [RegistryM.classAt, updateClass, hget, hkind, settle, Except.map, h]

/-- A change carried out in place comes to the same as the change of the registry as a
    value. -/
theorem attempt_eq (r : Registry σ) (change : RegistryChange σ) :
    r.attempt change = r.settle (r.change change) := by
  cases change with
  | declareClass | declareAnnotationType => exact runOn_some (r.runOn_push _)
  | declareNested outer name c => exact runOn_some (r.runOn_pushNested outer name c)
  | addMeta t added =>
    cases h : r.get? t with
    | none =>
      simp [attempt, RegistryM.carryOut, RegistryM.annotationAt, Registry.change, addMeta, h,
        settle, Except.map]
    | some d =>
      cases hkind : d.kind <;>
        simp [attempt, RegistryM.carryOut, RegistryM.annotationAt, RegistryM.putKind,
          Registry.change, addMeta, h, hkind, settle, Except.map]
  | setMembers t members =>
    apply runOn_updateClass
    intro c
    rfl
  | setHandler t code =>
    apply runOn_updateClass
    intro c
    simp [RegistryM.putKind, setKind_setKind]

/-! ## The three things that a change can come to -/

/-- The registry with one more type. -/
def add (r : Registry σ) (d : TypeDef σ) : Registry σ where
  types := r.types ++ [d]
  names := Entries.put r.names (r.nameOf d) (TypeId.ofNat r.size)

/-- What a change has come to, with the registry that it has left. -/
inductive Effect (r : Registry σ) : Except RegistryError (Option TypeId) × Registry σ → Prop
  | refused (e : RegistryError) : Effect r (.error e, r)
  | declared (d : TypeDef σ)
      (houter : ∀ outer, d.enclosing = some outer → (r.get? outer).isSome)
      (hfree : r.getByName? (r.nameOf d) = none) :
      Effect r (.ok (some (TypeId.ofNat r.size)), r.add d)
  | replaced (t : TypeId) (d : TypeDef σ) (kind : TypeKind σ) (hget : r.get? t = some d)
      (hsort : d.kind.SameSort kind) : Effect r (.ok none, r.setKind t kind)

theorem declare_effect (r : Registry σ) (d : TypeDef σ)
    (houter : ∀ outer, d.enclosing = some outer → (r.get? outer).isSome) :
    r.Effect (r.settle ((r.declare d).map (Prod.map some id))) := by
  by_cases h : Entries.contains r.names (r.nameOf d) = true
  · simp only [declare, h]
    exact .refused _
  · simp only [declare, h]
    apply Effect.declared d houter
    simpa [Entries.contains, getByName?] using h

theorem updateClass_effect (r : Registry σ) (t : TypeId) (f : ClassDef σ → ClassDef σ) :
    r.Effect (r.settle ((r.updateClass t f).map (Prod.mk none))) := by
  unfold updateClass
  cases h : r.get? t with
  | none => exact .refused _
  | some d =>
    rcases d with ⟨name, package, enclosing, kind⟩
    cases kind with
    | classType c => exact .replaced t _ _ h (.classType c _)
    | void | primitive | annotationType => exact .refused _

theorem addMeta_effect (r : Registry σ) (t : TypeId) (added : Annotation) :
    r.Effect (r.settle ((r.addMeta t added).map (Prod.mk none))) := by
  unfold addMeta
  cases h : r.get? t with
  | none => exact .refused _
  | some d =>
    rcases d with ⟨name, package, enclosing, kind⟩
    cases kind with
    | annotationType a => exact .replaced t _ _ h (.annotationType a _)
    | void | primitive | classType => exact .refused _

/-- **Every change is refused, or adds one type, or replaces one content by another of
    the same sort.** -/
theorem attempt_effect (r : Registry σ) (change : RegistryChange σ) :
    r.Effect (r.attempt change) := by
  rw [attempt_eq]
  cases change with
  | declareClass | declareAnnotationType =>
    apply declare_effect
    intro outer h
    cases h
  | declareNested outer name c =>
    show r.Effect (r.settle ((r.declareNested outer name c).map _))
    unfold declareNested
    cases h : r.get? outer with
    | none => exact .refused _
    | some d =>
      apply declare_effect
      intro outer' houter
      cases houter
      simp [h]
  | addMeta t added => exact r.addMeta_effect t added
  | setMembers t members => exact r.updateClass_effect t _
  | setHandler t code => exact r.updateClass_effect t _

/-! ## Growth -/

/-- Whatever is registered stays registered, as it was declared. -/
def GrowsTo (r r' : Registry σ) : Prop :=
  ∀ t d, r.get? t = some d → ∃ d', r'.get? t = some d' ∧ d.SameDeclaration d'

theorem GrowsTo.refl (r : Registry σ) : r.GrowsTo r :=
  fun _ d h => ⟨d, h, .refl d⟩

theorem GrowsTo.trans (h : r.GrowsTo r') (h' : r'.GrowsTo r'') : r.GrowsTo r'' := by
  intro t d hget
  obtain ⟨d', hget', hsame⟩ := h t d hget
  obtain ⟨d'', hget'', hsame'⟩ := h' t d' hget'
  exact ⟨d'', hget'', hsame.trans hsame'⟩

theorem lt_size_of_get? {d : TypeDef σ} (h : r.get? t = some d) : t.toNat < r.size :=
  (List.getElem?_eq_some_iff.mp h).1

theorem isSome_get?_iff : (r.get? t).isSome ↔ t.toNat < r.size := by
  simp [get?, size]

/-- What is registered already is found in the registry with one more type as before. -/
theorem get?_add_of_lt (d : TypeDef σ) (h : t.toNat < r.size) : (r.add d).get? t = r.get? t :=
  List.getElem?_append_left h

@[simp] theorem size_add (r : Registry σ) (d : TypeDef σ) : (r.add d).size = r.size + 1 := by
  simp [size, add]

@[simp] theorem size_setKind (r : Registry σ) (t : TypeId) (kind : TypeKind σ) :
    (r.setKind t kind).size = r.size := by
  simp [size, setKind]

theorem get?_setKind (r : Registry σ) (s t : TypeId) (kind : TypeKind σ) :
    (r.setKind t kind).get? s =
      if t.toNat = s.toNat then (r.get? s).map fun d => { d with kind } else r.get? s := by
  unfold get? setKind
  rw [List.getElem?_modify]
  by_cases h : t.toNat = s.toNat <;> simp [h]

theorem growsTo_add (r : Registry σ) (d : TypeDef σ) : r.GrowsTo (r.add d) := by
  intro t d' h
  refine ⟨d', ?_, .refl d'⟩
  rw [get?_add_of_lt d (lt_size_of_get? h)]
  exact h

theorem growsTo_setKind {d : TypeDef σ} {kind : TypeKind σ} (hget : r.get? t = some d)
    (hsort : d.kind.SameSort kind) : r.GrowsTo (r.setKind t kind) := by
  intro s d' h
  by_cases hst : t.toNat = s.toNat
  · have hd : d = d' := by
      unfold get? at hget h
      rw [hst, h] at hget
      exact (Option.some.inj hget).symm
    subst hd
    exact ⟨{ d with kind }, by rw [get?_setKind, if_pos hst, h]; rfl, rfl, rfl, rfl, hsort⟩
  · exact ⟨d', by rw [get?_setKind, if_neg hst, h], .refl d'⟩

theorem Effect.growsTo {out : Except RegistryError (Option TypeId) × Registry σ}
    (h : r.Effect out) : r.GrowsTo out.2 := by
  cases h with
  | refused => exact .refl r
  | declared d => exact r.growsTo_add d
  | replaced t d kind hget hsort => exact growsTo_setKind hget hsort

theorem Effect.size_le {out : Except RegistryError (Option TypeId) × Registry σ}
    (h : r.Effect out) : r.size ≤ out.2.size := by
  cases h <;> simp

/-- Along a run of changes types are only added. -/
theorem growsTo_after (r : Registry σ) (changes : List (RegistryChange σ)) :
    r.GrowsTo (r.after changes) := by
  induction changes generalizing r with
  | nil => exact .refl r
  | cons change rest ih => exact (r.attempt_effect change).growsTo.trans (ih _)

theorem size_le_after (r : Registry σ) (changes : List (RegistryChange σ)) :
    r.size ≤ (r.after changes).size := by
  induction changes generalizing r with
  | nil => exact Nat.le_refl _
  | cons change rest ih => exact Nat.le_trans (r.attempt_effect change).size_le (ih _)

end Registry

end AnnotationGuards
