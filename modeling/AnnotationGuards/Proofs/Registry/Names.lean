import AnnotationGuards.Proofs.Registry.Changes
import Mathlib.Algebra.Group.Nat.Defs

/-! # Names and identities

    The index of a registry is computed from names that are themselves read off by a walk
    over the types around a type, and packages and nesting share one dotted name space: a
    nested class and a class of a package can ask for one name. It is free for the first
    of them only.

    * `Registry.Indexed`: types stand behind the types around them, and the index holds
      the qualified name of every type, and nothing else.
    * `Registry.Named`: the walk that reads off a name, without a bound. Where types stand
      behind the types around them it ends, at the qualified name.
    * `Registry.Effect.indexed`, `Registry.indexed_after`: one change keeps the index in
      order, and so does a run of changes.
    * **`Registry.names_in_bijection`**: names and identities of a registry that has come
      about by changes. -/

namespace AnnotationGuards

variable {σ : Type} {r r' : Registry σ} {t : TypeId}

namespace TypeId

theorem toNat_ofNat {n : Nat} (h : n < 2 ^ 32) : (ofNat n).toNat = n :=
  UInt32.toNat_ofNat_of_lt' h

theorem toNat_injective {s t : TypeId} (h : s.toNat = t.toNat) : s = t := by
  obtain ⟨s⟩ := s
  obtain ⟨t⟩ := t
  exact congrArg TypeId.mk (UInt32.toNat_inj.mp h)

end TypeId

namespace Registry

/-! ## Reading off a name -/

/-- Every type stands behind the type around it. -/
def Layered (r : Registry σ) : Prop :=
  ∀ t d outer, r.get? t = some d → d.enclosing = some outer → outer.toNat < t.toNat

/-- Any bound above the number of a type gives one name. -/
theorem qualifiedNameWithin_eq (h : r.Layered) {depth depth' : Nat} (hdepth : t.toNat < depth)
    (hdepth' : t.toNat < depth') :
    r.qualifiedNameWithin depth t = r.qualifiedNameWithin depth' t := by
  induction depth generalizing t depth' with
  | zero => omega
  | succ depth ih =>
    cases depth' with
    | zero => omega
    | succ depth' =>
      unfold qualifiedNameWithin
      cases hget : r.get? t with
      | none => rfl
      | some d =>
        cases houter : d.enclosing with
        | none => simp [houter]
        | some outer =>
          have hlt := h t d outer hget houter
          have hname : r.qualifiedNameWithin depth outer = r.qualifiedNameWithin depth' outer :=
            ih (by omega) (by omega)
          simp [houter, hname]

/-- The qualified name of a registered type is the one that its declaration asks for. -/
theorem qualifiedName_of_get? (h : r.Layered) {d : TypeDef σ} (hget : r.get? t = some d) :
    r.qualifiedName t = r.nameOf d := by
  unfold qualifiedName qualifiedNameWithin nameOf
  rw [hget]
  cases houter : d.enclosing with
  | none => simp [houter]
  | some outer =>
    have hlt := h t d outer hget houter
    have hname : r.qualifiedNameWithin t.toNat outer = r.qualifiedName outer :=
      qualifiedNameWithin_eq h hlt (Nat.lt_succ_self _)
    simp [houter, hname]

/-- The walk that reads off the name of a type: on to the type around it, as long as there
    is one. -/
inductive Named (r : Registry σ) : TypeId → String → Prop
  | unknown {t : TypeId} (hget : r.get? t = none) : Named r t (unknownName t)
  | topLevel {t : TypeId} {d : TypeDef σ} (hget : r.get? t = some d)
      (houter : d.enclosing = none) : Named r t (qualify d.package d.name)
  | nested {t outer : TypeId} {d : TypeDef σ} {name : String} (hget : r.get? t = some d)
      (houter : d.enclosing = some outer) (hname : Named r outer name) :
      Named r t (name ++ "." ++ d.name)

/-- The walk ends at every type, at the qualified name. -/
theorem named_qualifiedName (h : r.Layered) (t : TypeId) : r.Named t (r.qualifiedName t) := by
  -- The number of the type goes down on the way out.
  induction hn : t.toNat using Nat.strongRecOn generalizing t with
  | ind n ih =>
    cases hget : r.get? t with
    | none =>
      have hname : r.qualifiedName t = unknownName t := by
        simp [qualifiedName, qualifiedNameWithin, hget]
      rw [hname]
      exact .unknown hget
    | some d =>
      rw [qualifiedName_of_get? h hget]
      unfold nameOf
      cases houter : d.enclosing with
      | none => exact .topLevel hget houter
      | some outer =>
        have hlt := h t d outer hget houter
        exact .nested hget houter (ih _ (hn ▸ hlt) outer rfl)

/-- The walk reads off one name only. -/
theorem Named.unique {name name' : String} (h : r.Named t name) (h' : r.Named t name') :
    name = name' := by
  induction h generalizing name' with
  | unknown hget =>
    cases h' <;> simp_all
  | topLevel hget houter =>
    cases h' <;> simp_all
  | nested hget houter hname ih =>
    cases h' with
    | unknown hget' | topLevel hget' => simp_all
    | nested hget' houter' hname' =>
      rw [hget] at hget'
      cases hget'
      rw [houter] at houter'
      cases houter'
      rw [ih hname']

/-! ## Names as a registry grows -/

theorem GrowsTo.isSome (h : r.GrowsTo r') (hreg : (r.get? t).isSome) : (r'.get? t).isSome := by
  obtain ⟨d, hget⟩ := Option.isSome_iff_exists.mp hreg
  obtain ⟨d', hget', -⟩ := h t d hget
  simp [hget']

/-- A registered type keeps its name. -/
theorem GrowsTo.qualifiedName (h : r.GrowsTo r') (hlayered : r.Layered)
    (hreg : (r.get? t).isSome) : r'.qualifiedName t = r.qualifiedName t := by
  unfold Registry.qualifiedName
  generalize t.toNat + 1 = depth
  induction depth generalizing t with
  | zero => rfl
  | succ depth ih =>
    obtain ⟨d, hget⟩ := Option.isSome_iff_exists.mp hreg
    obtain ⟨d', hget', hsame⟩ := h t d hget
    unfold qualifiedNameWithin
    rw [hget, hget']
    simp only [hsame.enclosing, hsame.name, hsame.package]
    cases houter : d.enclosing with
    | none => rfl
    | some outer =>
      have hlt := hlayered t d outer hget houter
      have hreg' : (r.get? outer).isSome := by
        rw [isSome_get?_iff] at hreg ⊢
        omega
      simp only [ih hreg']

/-- A declaration inside a registered type asks for one name, before and after. -/
theorem GrowsTo.nameOf (h : r.GrowsTo r') (hlayered : r.Layered) {d : TypeDef σ}
    (houter : ∀ outer, d.enclosing = some outer → (r.get? outer).isSome) :
    r'.nameOf d = r.nameOf d := by
  unfold Registry.nameOf
  cases hd : d.enclosing with
  | none => rfl
  | some outer => simp only [h.qualifiedName hlayered (houter outer hd)]

/-! ## The index -/

/-- Types stand behind the types around them, and the index holds the qualified name of
    every type, and nothing else. -/
structure Indexed (r : Registry σ) : Prop where
  layered : r.Layered
  getByName?_iff : ∀ name t,
    r.getByName? name = some t ↔ (r.get? t).isSome ∧ r.qualifiedName t = name

/-- The built-in types have different names. -/
theorem nodup_builtinNames :
    ((builtinTypes : List (TypeDef σ)).map fun d => qualify d.package d.name).Nodup := by
  have h : ((builtinTypes : List (TypeDef σ)).map fun d => qualify d.package d.name) =
      (builtinTypes : List (TypeDef Unit)).map fun d => qualify d.package d.name := rfl
  rw [h]
  decide +kernel

theorem enclosing_of_mem_builtinTypes {d : TypeDef σ} (h : d ∈ builtinTypes) :
    d.enclosing = none := by
  revert d
  simp [builtinTypes, builtinPrimitive, builtinClass, builtinBox, builtinMeta]

theorem get?_initial : (initial : Registry σ).get? t = builtinTypes[t.toNat]? := rfl

theorem size_initial_lt : (initial : Registry σ).size < 2 ^ 32 := by
  show 34 < 2 ^ 32
  decide

theorem layered_initial : (initial : Registry σ).Layered := by
  intro t d outer hget houter
  have hnone := enclosing_of_mem_builtinTypes (List.mem_of_getElem? hget)
  rw [hnone] at houter
  cases houter

theorem keys_initial : Entries.keys (initial : Registry σ).names =
    builtinTypes.map fun d : TypeDef σ => qualify d.package d.name := by
  apply List.ext_getElem?
  intro i
  simp only [Entries.keys, initial, List.getElem?_map, List.getElem?_mapIdx]
  cases (builtinTypes : List (TypeDef σ))[i]? <;> rfl

theorem getByName?_initial_iff (name : String) (t : TypeId) :
    (initial : Registry σ).getByName? name = some t ↔
      ∃ d, (initial : Registry σ).get? t = some d ∧ qualify d.package d.name = name := by
  have hkeys : (Entries.keys (initial : Registry σ).names).Nodup := by
    rw [keys_initial]
    exact nodup_builtinNames
  have hmem : (initial : Registry σ).getByName? name = some t ↔
      (name, t) ∈ (initial : Registry σ).names :=
    ⟨Entries.mem_of_get?, Entries.get?_of_mem hkeys⟩
  rw [hmem, get?_initial]
  simp only [initial, List.mem_mapIdx, Prod.mk.injEq]
  constructor
  · rintro ⟨i, hi, rfl, rfl⟩
    have hlt : i < 2 ^ 32 := Nat.lt_trans hi size_initial_lt
    exact ⟨_, by rw [TypeId.toNat_ofNat hlt]; exact List.getElem?_eq_getElem hi, rfl⟩
  · rintro ⟨d, hget, rfl⟩
    obtain ⟨hi, rfl⟩ := List.getElem?_eq_some_iff.mp hget
    refine ⟨t.toNat, hi, rfl, TypeId.toNat_injective (TypeId.toNat_ofNat ?_)⟩
    exact Nat.lt_trans hi size_initial_lt

theorem indexed_initial : (initial : Registry σ).Indexed where
  layered := layered_initial
  getByName?_iff := by
    intro name t
    rw [getByName?_initial_iff]
    constructor
    · rintro ⟨d, hget, rfl⟩
      have hnone := enclosing_of_mem_builtinTypes (List.mem_of_getElem? hget)
      rw [qualifiedName_of_get? layered_initial hget]
      simp [hget, nameOf, hnone]
    · rintro ⟨hreg, rfl⟩
      obtain ⟨d, hget⟩ := Option.isSome_iff_exists.mp hreg
      have hnone := enclosing_of_mem_builtinTypes (List.mem_of_getElem? hget)
      rw [qualifiedName_of_get? layered_initial hget]
      exact ⟨d, hget, by simp [nameOf, hnone]⟩

/-! ## What changes keep -/

/-- What is registered after one more type is what was registered before, and the new
    type under the next identity. -/
theorem get?_add_eq_some_iff {d d' : TypeDef σ} :
    (r.add d).get? t = some d' ↔ r.get? t = some d' ∨ t.toNat = r.size ∧ d = d' := by
  unfold get? add size
  rw [List.getElem?_append]
  by_cases hlt : t.toNat < r.types.length
  · simp [hlt, Nat.ne_of_lt hlt]
  · by_cases hnew : t.toNat = r.types.length
    · simp [hnew]
    · have hrest : t.toNat - r.types.length ≠ 0 := by omega
      simp [hlt, hnew, hrest]

theorem Layered.add (h : r.Layered) {d : TypeDef σ}
    (houter : ∀ outer, d.enclosing = some outer → (r.get? outer).isSome) :
    (r.add d).Layered := by
  intro t d' outer hget hd'
  rcases get?_add_eq_some_iff.mp hget with hold | ⟨hnew, rfl⟩
  · exact h t d' outer hold hd'
  · have hlt := isSome_get?_iff.mp (houter outer hd')
    omega

theorem Layered.setKind (h : r.Layered) {s : TypeId} {d : TypeDef σ} {kind : TypeKind σ}
    (hget : r.get? s = some d) (hsort : d.kind.SameSort kind) : (r.setKind s kind).Layered := by
  intro t d' outer hd' houter
  have hreg : (r.get? t).isSome := by
    rw [isSome_get?_iff, ← r.size_setKind s kind]
    exact lt_size_of_get? hd'
  obtain ⟨e, he⟩ := Option.isSome_iff_exists.mp hreg
  obtain ⟨e', he', hsame⟩ := growsTo_setKind hget hsort t e he
  rw [hd'] at he'
  cases he'
  exact h t e outer he (hsame.enclosing ▸ houter)

/-- One more type goes into the index under the name that its declaration asks for. -/
theorem Indexed.add (h : r.Indexed) {d : TypeDef σ} (hsize : r.size < 2 ^ 32)
    (houter : ∀ outer, d.enclosing = some outer → (r.get? outer).isSome)
    (hfree : r.getByName? (r.nameOf d) = none) : (r.add d).Indexed where
  layered := h.layered.add houter
  getByName?_iff := by
    intro name t
    have hgrows := r.growsTo_add d
    have hnew : (TypeId.ofNat r.size).toNat = r.size := TypeId.toNat_ofNat hsize
    have hlookup : (r.add d).getByName? name =
        if r.nameOf d = name then some (TypeId.ofNat r.size) else r.getByName? name :=
      Entries.get?_put ..
    rw [hlookup]
    by_cases ht : t.toNat = r.size
    -- The new type has the name under which it is put.
    · have hid : t = TypeId.ofNat r.size := TypeId.toNat_injective (ht.trans hnew.symm)
      have hget : (r.add d).get? t = some d := get?_add_eq_some_iff.mpr (.inr ⟨ht, rfl⟩)
      have hunknown : r.getByName? name ≠ some t := by
        intro hsome
        have hlt := isSome_get?_iff.mp ((h.getByName?_iff name t).mp hsome).1
        omega
      rw [qualifiedName_of_get? (h.layered.add houter) hget, hgrows.nameOf h.layered houter, hget,
        ← hid]
      by_cases hname : r.nameOf d = name
      · simp [hname]
      · simp [hname, hunknown]
    -- The others keep theirs, and none of them has the new name.
    · have hget : (r.add d).get? t = r.get? t := by
        apply Option.ext
        intro d'
        simp [get?_add_eq_some_iff, ht]
      have hne : TypeId.ofNat r.size ≠ t := fun heq => ht (heq ▸ hnew)
      have hold : (r.get? t).isSome ∧ (r.add d).qualifiedName t = name ↔
          r.getByName? name = some t := by
        rw [h.getByName?_iff]
        constructor
        · rintro ⟨hreg, hname⟩
          exact ⟨hreg, (hgrows.qualifiedName h.layered hreg).symm.trans hname⟩
        · rintro ⟨hreg, hname⟩
          exact ⟨hreg, (hgrows.qualifiedName h.layered hreg).trans hname⟩
      rw [hget, hold]
      by_cases hname : r.nameOf d = name
      · rw [if_pos hname, ← hname, hfree]
        simp [hne]
      · rw [if_neg hname]

/-- Another content of the same sort leaves the index as it is. -/
theorem Indexed.setKind (h : r.Indexed) {s : TypeId} {d : TypeDef σ} {kind : TypeKind σ}
    (hget : r.get? s = some d) (hsort : d.kind.SameSort kind) : (r.setKind s kind).Indexed := by
  have hgrows := growsTo_setKind hget hsort
  have hreg : ∀ t, ((r.setKind s kind).get? t).isSome ↔ (r.get? t).isSome := by
    intro t
    rw [isSome_get?_iff, isSome_get?_iff, size_setKind]
  constructor
  case layered => exact h.layered.setKind hget hsort
  case getByName?_iff =>
    intro name t
    show r.getByName? name = some t ↔ _
    rw [h.getByName?_iff, hreg]
    constructor
    · rintro ⟨hsome, hname⟩
      exact ⟨hsome, (hgrows.qualifiedName h.layered hsome).trans hname⟩
    · rintro ⟨hsome, hname⟩
      exact ⟨hsome, (hgrows.qualifiedName h.layered hsome).symm.trans hname⟩

/-- Whatever a change comes to, the index stays in order. -/
theorem Effect.indexed {out : Except RegistryError (Option TypeId) × Registry σ}
    (h : r.Effect out) (hindexed : r.Indexed) (hsize : out.2.size ≤ 2 ^ 32) : out.2.Indexed := by
  cases h with
  | refused => exact hindexed
  | declared d houter hfree =>
    rw [size_add] at hsize
    exact hindexed.add (by omega) houter hfree
  | replaced s d kind hget hsort => exact hindexed.setKind hget hsort

/-- A run of changes keeps the index in order, as long as there are identities left. -/
theorem indexed_after (changes : List (RegistryChange σ)) (h : r.Indexed)
    (hsize : (r.after changes).size ≤ 2 ^ 32) : (r.after changes).Indexed := by
  induction changes generalizing r with
  | nil => exact h
  | cons change rest ih =>
    have hrest := size_le_after (r.attempt change).2 rest
    exact ih ((r.attempt_effect change).indexed h (Nat.le_trans hrest hsize)) hsize

theorem Reached.indexed (h : r.Reached) (hsize : r.size ≤ 2 ^ 32) : r.Indexed := by
  obtain ⟨changes, rfl⟩ := h
  exact indexed_after changes indexed_initial hsize

/-! ## Names and identities of a registry -/

/-- **Names and identities of a registry that has come about by changes, refused ones
    included, go together one to one**, as long as there are identities left:

    1. the index finds a type under a name exactly if it is registered and has this
       qualified name;
    2. different types have different qualified names;
    3. the type around a type is registered, and its number is smaller;
    4. so the walk that reads off a name ends, at the qualified name and nowhere else;
    5. identities are dense: the registered ones are those below the number of types;
    6. a change that is refused leaves the registry as it was, one that declares a type
       gives it the next identity, and any other adds none;
    7. whatever changes come, a type keeps what it was declared as, and its name. -/
theorem names_in_bijection (h : r.Reached) (hsize : r.size < 2 ^ 32) :
    (∀ name t, r.getByName? name = some t ↔ (r.get? t).isSome ∧ r.qualifiedName t = name) ∧
    (∀ s t, (r.get? s).isSome → (r.get? t).isSome → r.qualifiedName s = r.qualifiedName t →
      s = t) ∧
    (∀ t d outer, r.get? t = some d → d.enclosing = some outer →
      (r.get? outer).isSome ∧ outer.toNat < t.toNat) ∧
    (∀ t name, r.Named t name ↔ name = r.qualifiedName t) ∧
    (∀ n, n < r.size ↔ ∃ t, (r.get? t).isSome ∧ t.toNat = n) ∧
    (∀ change,
      match r.attempt change with
      | (.error _, r') => r' = r
      | (.ok (some t), r') => t.toNat = r.size ∧ r'.size = r.size + 1
      | (.ok none, r') => r'.size = r.size) ∧
    (∀ changes t d, r.get? t = some d →
      (r.after changes).qualifiedName t = r.qualifiedName t ∧
        ∃ d', (r.after changes).get? t = some d' ∧ d.SameDeclaration d') := by
  have hindexed := h.indexed (Nat.le_of_lt hsize)
  have hlayered := hindexed.layered
  refine ⟨hindexed.getByName?_iff, ?_, ?_, ?_, ?_, ?_, ?_⟩
  · intro s t hs ht hname
    have hfound := (hindexed.getByName?_iff (r.qualifiedName t) s).mpr ⟨hs, hname⟩
    rw [(hindexed.getByName?_iff (r.qualifiedName t) t).mpr ⟨ht, rfl⟩] at hfound
    exact (Option.some.inj hfound).symm
  · intro t d outer hget houter
    have hlt := hlayered t d outer hget houter
    have hreg := lt_size_of_get? hget
    exact ⟨isSome_get?_iff.mpr (by omega), hlt⟩
  · intro t name
    constructor
    · intro hnamed
      exact hnamed.unique (named_qualifiedName hlayered t)
    · rintro rfl
      exact named_qualifiedName hlayered t
  · intro n
    constructor
    · intro hn
      have hid : (TypeId.ofNat n).toNat = n := TypeId.toNat_ofNat (by omega)
      exact ⟨TypeId.ofNat n, isSome_get?_iff.mpr (by omega), hid⟩
    · rintro ⟨t, hreg, rfl⟩
      exact isSome_get?_iff.mp hreg
  · intro change
    have heffect := r.attempt_effect change
    generalize r.attempt change = out at heffect
    cases heffect with
    | refused => rfl
    | declared d => exact ⟨TypeId.toNat_ofNat hsize, r.size_add d⟩
    | replaced s d kind => exact r.size_setKind s kind
  · intro changes t d hget
    have hgrows := r.growsTo_after changes
    exact ⟨hgrows.qualifiedName hlayered (by simp [hget]), hgrows t d hget⟩

/-- An annotation type `demo.Min` with a nested class `Handler`, and a class of the package
    `demo.Min` that asks for the same name. -/
def Sample.contested : List (RegistryChange Unit) := [
  .declareAnnotationType "demo" "Min" {},
  .declareNested ⟨34⟩ "Handler" {},
  .declareClass "demo.Min" "Handler" {}]

theorem names_in_bijection_sample :
    (initial.after Sample.contested).Reached ∧ (initial.after Sample.contested).size < 2 ^ 32 ∧
      (initial.after Sample.contested).getByName? "demo.Min.Handler" = some ⟨35⟩ := by
  have hsize : (initial.after Sample.contested).size < 2 ^ 32 := by decide
  refine ⟨⟨_, rfl⟩, hsize, ?_⟩
  exact ((names_in_bijection ⟨_, rfl⟩ hsize).1 _ _).mpr ⟨by decide, by decide⟩

end Registry

end AnnotationGuards
