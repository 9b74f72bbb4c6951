import AnnotationGuards.Proofs.Guard.Circularity
import AnnotationGuards.Proofs.Registry.Signatures
import AnnotationGuards.Proofs.Registry.Subtyping

/-! # A new type leaves the others alone

    Names, subtypes and verdicts are searched for: from a type to those that it mentions, and
    on from these. Identities that are not there are passed over, so a new type can bring a
    mention to life that led nowhere before. This is the only way for it to make a difference.

    * `Registry.Mentions`: a type declares a supertype, or carries a meta of a type.
    * `Registry.AgreeOn`: two registries hold the same types in a part that no search leaves.
    * `Registry.AgreeOn.qualifiedName`, `Registry.AgreeOn.isSubtype`,
      `Registry.AgreeOn.isAssignable`, `Registry.AgreeOn.classify`: then all answers about
      these types are the same.
    * `MetaGraph.Draft.ReadsTo.agree`: the work list of a meta graph is the same, round by
      round.
    * **`Registry.declaration_disturbs_nothing`**: what is left as it was by the declaration
      of a type that had not been mentioned. -/

namespace AnnotationGuards

open Relation

variable {σ : Type} {r r' : Registry σ} {P : TypeId → Prop} {s t x : TypeId}

namespace Registry

/-! ## Mentions -/

/-- The type `t` has the type `s` as a declared supertype, or as the type of a meta. -/
def Mentions (r : Registry σ) (t s : TypeId) : Prop :=
  s ∈ r.supertypes t ∨ ∃ a ∈ r.metas t, a.type = s

instance : Decidable (r.Mentions t s) := inferInstanceAs (Decidable (_ ∨ _))

theorem mem_ids_of_mentions (h : r.Mentions t s) : t ∈ r.ids := by
  rcases h with hsuper | ⟨a, ha, -⟩
  · by_contra hnot
    rw [supertypes_of_not_mem_ids hnot] at hsuper
    cases hsuper
  · exact mem_ids_of_isAnnotation (isAnnotation_of_mem_metas ha)

/-- Some registered type mentions the identity, whether or not it is one of a type. -/
def Mentioned (r : Registry σ) (x : TypeId) : Prop := ∃ t, r.Mentions t x

theorem mentioned_iff : r.Mentioned x ↔ ∃ t ∈ r.ids, r.Mentions t x := by
  constructor
  · rintro ⟨t, h⟩
    exact ⟨t, mem_ids_of_mentions h, h⟩
  · rintro ⟨t, -, h⟩
    exact ⟨t, h⟩

instance : Decidable (r.Mentioned x) := decidable_of_iff _ mentioned_iff.symm

/-! ## Agreement on a part -/

/-- The registries hold the same under the identities of a part, and neither the types around
    a type of the part nor the types that it mentions lie outside. -/
structure AgreeOn (P : TypeId → Prop) (r r' : Registry σ) : Prop where
  get? : ∀ t, P t → r'.get? t = r.get? t
  enclosing : ∀ t d outer, P t → r.get? t = some d → d.enclosing = some outer → P outer
  mentioned : ∀ t s, P t → r.Mentions t s → P s

namespace AgreeOn

theorem class? (h : AgreeOn P r r') (ht : P t) : r'.class? t = r.class? t := by
  unfold Registry.class?
  rw [h.get? t ht]

theorem annotation? (h : AgreeOn P r r') (ht : P t) : r'.annotation? t = r.annotation? t := by
  unfold Registry.annotation?
  rw [h.get? t ht]

theorem primitive? (h : AgreeOn P r r') (ht : P t) : r'.primitive? t = r.primitive? t := by
  unfold Registry.primitive?
  rw [h.get? t ht]

theorem isAnnotation (h : AgreeOn P r r') (ht : P t) : r'.isAnnotation t = r.isAnnotation t := by
  unfold Registry.isAnnotation
  rw [h.annotation? ht]

theorem supertypes (h : AgreeOn P r r') (ht : P t) : r'.supertypes t = r.supertypes t := by
  unfold Registry.supertypes
  rw [h.class? ht]

theorem metas (h : AgreeOn P r r') (ht : P t) : r'.metas t = r.metas t := by
  unfold Registry.metas
  rw [h.annotation? ht]

theorem symm (h : AgreeOn P r r') : AgreeOn P r' r where
  get? t ht := (h.get? t ht).symm
  enclosing t d outer ht hget := h.enclosing t d outer ht ((h.get? t ht).symm.trans hget)
  mentioned t s ht hmentions := by
    unfold Mentions at hmentions
    rw [h.supertypes ht, h.metas ht] at hmentions
    exact h.mentioned t s ht hmentions

/-! ## Names and subtypes -/

/-- The walk that reads off a name does not leave the part. -/
theorem qualifiedName (h : AgreeOn P r r') (ht : P t) :
    r'.qualifiedName t = r.qualifiedName t := by
  unfold Registry.qualifiedName
  -- On the bound; the type around a type of the part is one of the part.
  generalize t.toNat + 1 = depth
  induction depth generalizing t with
  | zero => rfl
  | succ depth ih =>
    unfold qualifiedNameWithin
    rw [h.get? t ht]
    cases hget : r.get? t with
    | none => rfl
    | some d =>
      cases houter : d.enclosing with
      | none => simp only [houter]
      | some outer => simp only [houter, ih (h.enclosing t d outer ht hget houter)]

/-- Nor does the way up, so what lies above a type of the part is there in both. -/
theorem above (h : AgreeOn P r r') (hs : P s) (hst : TransGen r.Declares s t) :
    TransGen r'.Declares s t := by
  have hstep : ∀ {a b}, P a → r.Declares a b → r'.Declares a b ∧ P b := by
    intro a b ha hab
    refine ⟨?_, h.mentioned a b ha (.inl hab)⟩
    unfold Declares
    rw [h.supertypes ha]
    exact hab
  -- Step by step the way stays inside the part.
  have hboth : TransGen r'.Declares s t ∧ P t := by
    induction hst with
    | single hab => exact ⟨.single (hstep hs hab).1, (hstep hs hab).2⟩
    | tail _ hbc ih => exact ⟨.tail ih.1 (hstep ih.2 hbc).1, (hstep ih.2 hbc).2⟩
  exact hboth.1

theorem isSubtype (h : AgreeOn P r r') (hs : P s) : r'.isSubtype s t = r.isSubtype s t := by
  have hreference : r'.isReference s = r.isReference s := by
    unfold isReference
    rw [h.get? s hs, h.primitive? hs]
  have habove : TransGen r'.Declares s t ↔ TransGen r.Declares s t :=
    ⟨h.symm.above hs, h.above hs⟩
  rw [Bool.eq_iff_iff, isSubtype_iff, isSubtype_iff, hreference, habove]

theorem isAssignable (h : AgreeOn P r r') (hs : P s) (ht : P t) :
    r'.isAssignable s t = r.isAssignable s t := by
  unfold Registry.isAssignable
  rw [h.primitive? hs, h.primitive? ht, h.isSubtype hs]

end AgreeOn

end Registry

/-! ## The meta graph -/

namespace MetaGraph.Draft

open Registry

variable {d : Draft} {current n : TypeId}

/-- What becomes pending is the type of a meta. -/
theorem mem_pending_readMeta {a : Annotation} (h : n ∈ (readMeta r current d a).pending) :
    n ∈ d.pending ∨ n = a.type := by
  unfold readMeta at h
  split at h
  · exact .inl h
  · split at h
    · dsimp only at h
      unfold addNode at h
      split at h
      · exact .inl h
      · exact (List.mem_cons.mp h).symm
    · exact .inl h

theorem mem_pending_foldl {metas : List Annotation}
    (h : n ∈ (metas.foldl (readMeta r current) d).pending) :
    n ∈ d.pending ∨ ∃ a ∈ metas, n = a.type := by
  induction metas generalizing d with
  | nil => exact .inl h
  | cons a rest ih =>
    rcases ih h with hfirst | ⟨b, hb, hn⟩
    · rcases mem_pending_readMeta hfirst with hold | hn
      · exact .inl hold
      · exact .inr ⟨a, List.mem_cons_self, hn⟩
    · exact .inr ⟨b, List.mem_cons_of_mem a hb, hn⟩

theorem readMeta_agree (h : AgreeOn P r r') {a : Annotation} (ha : P a.type) :
    readMeta r' current d a = readMeta r current d a := by
  unfold readMeta isMetaEdge
  rw [h.isAnnotation ha]

/-- Nodes of the part are read alike, and only lead to nodes of the part. -/
theorem foldl_agree (h : AgreeOn P r r') (hcurrent : P current) :
    (r'.metas current).foldl (readMeta r' current) d =
      (r.metas current).foldl (readMeta r current) d := by
  rw [h.metas hcurrent]
  refine List.foldl_ext _ _ d fun d a ha => ?_
  exact readMeta_agree h (h.mentioned current a.type hcurrent (.inr ⟨a, ha, rfl⟩))

/-- As long as only nodes of the part are pending, one registry is read like the other. -/
theorem ReadsTo.agree (h : AgreeOn P r r') {g : MetaGraph} (hreads : ReadsTo r d g)
    (hpending : ∀ n ∈ d.pending, P n) : ReadsTo r' d g := by
  induction hreads with
  | done => exact .done
  | @next graph g current pending _ ih =>
    have hcurrent : P current := hpending current List.mem_cons_self
    refine .next ?_
    rw [foldl_agree h hcurrent]
    refine ih fun n hn => ?_
    rcases mem_pending_foldl hn with hold | ⟨a, ha, rfl⟩
    · exact hpending n (List.mem_cons_of_mem current hold)
    · exact h.mentioned current a.type hcurrent (.inr ⟨a, ha, rfl⟩)

end MetaGraph.Draft

namespace Registry

/-- Types elsewhere have no part in a meta graph, and how many there are is no matter. -/
theorem AgreeOn.build (h : AgreeOn P r r') (ht : P t) :
    MetaGraph.build r' t = MetaGraph.build r t := by
  -- The bounds differ with the sizes, so both work lists are compared without a bound.
  refine (MetaGraph.readsTo_build r' t).unique ((MetaGraph.readsTo_build r t).agree h ?_)
  intro n hn
  rw [List.mem_singleton.mp hn]
  exact ht

theorem AgreeOn.of_reach (h : AgreeOn P r r') (hs : P s) (hst : ReflTransGen r.MetaStep s t) :
    P t := by
  induction hst with
  | refl => exact hs
  | tail _ hstep ih => exact h.mentioned _ _ ih (.inr hstep.2.1)

/-- A verdict is the same, and so are the cycle that it names and the names on it. -/
theorem AgreeOn.classify (h : AgreeOn P r r') (ht : P t) :
    AnnotationGuards.classify r' t = AnnotationGuards.classify r t := by
  -- The graph says it all but for the names, and a cycle does not leave the part either.
  have hnames : ∀ cycle, (MetaGraph.build r t).guardCycle t = some cycle →
      cycle.map r'.qualifiedName = cycle.map r.qualifiedName := by
    intro cycle hcycle
    obtain ⟨c, rest, rfl, -, hchain, hreach, -⟩ :=
      (MetaGraph.build_spans r t).cycle_of_guardCycle hcycle
    have hc : P c := h.of_reach ht hreach
    refine List.map_congr_left fun n hn => h.qualifiedName ?_
    rcases List.mem_append.mp hn with hn | hn
    · exact h.of_reach hc (reach_of_isChain_cycle hchain hn).1
    · rw [List.mem_singleton.mp hn]
      exact hc
  unfold AnnotationGuards.classify
  rw [h.isAnnotation ht, h.build ht]
  dsimp only
  cases hcycle : (MetaGraph.build r t).guardCycle t with
  | none => rfl
  | some cycle => simp only [hnames cycle hcycle]

/-! ## One more type -/

/-- A type that had not been mentioned can be met by a search only if that starts from it. So
    the registry agrees with the larger one on all other types, and on all that there were. -/
theorem agreeOn_add (hlayered : r.Layered) (d : TypeDef σ)
    (hunmentioned : ¬ r.Mentioned (TypeId.ofNat r.size)) :
    AgreeOn (fun t => t ≠ TypeId.ofNat r.size ∨ (r.get? t).isSome) r (r.add d) where
  get? := by
    rintro t (hne | hreg)
    · apply Option.ext
      intro d'
      have hnew : t.toNat ≠ r.size := fun h => hne (by rw [← h, TypeId.ofNat_toNat])
      simp [get?_add_eq_some_iff, hnew]
    · exact get?_add_of_lt d (isSome_get?_iff.mp hreg)
  enclosing := by
    -- The type around a registered type is registered, as its number is smaller.
    intro t d' outer _ hget houter
    have hlt := hlayered t d' outer hget houter
    have hreg := lt_size_of_get? hget
    exact .inr (isSome_get?_iff.mpr (by omega))
  mentioned := by
    -- Whatever is mentioned, it is not the new type.
    intro t s _ hmentions
    refine .inl ?_
    rintro rfl
    exact hunmentioned ⟨t, hmentions⟩

/-- The new type has the name that its declaration asked for, unless the identities have run
    out and its number is an older type's. -/
theorem qualifiedName_add (hlayered : r.Layered) {d : TypeDef σ}
    (houter : ∀ outer, d.enclosing = some outer → (r.get? outer).isSome)
    (hnew : r.get? (TypeId.ofNat r.size) = none) :
    (r.add d).qualifiedName (TypeId.ofNat r.size) = r.nameOf d := by
  have hlt : ¬ (TypeId.ofNat r.size).toNat < r.size := by
    rw [← isSome_get?_iff, hnew]
    simp
  have hle : (TypeId.ofNat r.size).toNat ≤ r.size := by
    show (UInt32.ofNat r.size).toNat ≤ r.size
    rw [UInt32.toNat_ofNat']
    exact Nat.mod_le _ _
  have hget : (r.add d).get? (TypeId.ofNat r.size) = some d :=
    get?_add_eq_some_iff.mpr (.inr ⟨by omega, rfl⟩)
  rw [qualifiedName_of_get? (hlayered.add houter) hget, (r.growsTo_add d).nameOf hlayered houter]

/-- **Declaring a type disturbs nothing that was declared before.** Let a declaration give the
    identity `x` to a new type, and let no type have mentioned this identity before, as a
    supertype or as the type of a meta. Then for the types that were registered

    1. what is registered, their qualified names, whether they are subtypes of each other and
       assignable to each other, and the verdicts on them, with the cycles that are reported,
       are as before;
    2. and so is what is found under any name but one, which was free and leads to `x` now. It
       is the qualified name of `x`; only once the identities have run out is `x` the
       identity of an older type as well, and has its name. -/
theorem declaration_disturbs_nothing {change : RegistryChange σ} (h : r.Reached)
    (hdeclare : r.attempt change = (.ok (some x), r')) (hunmentioned : ¬ r.Mentioned x) :
    (∀ a b, (r.get? a).isSome → (r.get? b).isSome →
      r'.get? a = r.get? a ∧ r'.qualifiedName a = r.qualifiedName a ∧
        r'.isSubtype a b = r.isSubtype a b ∧ r'.isAssignable a b = r.isAssignable a b ∧
        AnnotationGuards.classify r' a = AnnotationGuards.classify r a) ∧
    ∃ name, r.getByName? name = none ∧ r'.getByName? name = some x ∧
      (r.get? x = none → r'.qualifiedName x = name) ∧
      ∀ other, other ≠ name → r'.getByName? other = r.getByName? other := by
  have heffect := r.attempt_effect change
  rw [hdeclare] at heffect
  cases heffect with
  | declared d houter hfree =>
    have hlayered := h.findable.layered
    have hagree := agreeOn_add hlayered d hunmentioned
    refine ⟨?_, r.nameOf d, hfree, Entries.get?_put_self .., qualifiedName_add hlayered houter, ?_⟩
    · intro a b ha hb
      exact ⟨hagree.get? a (.inr ha), hagree.qualifiedName (.inr ha), hagree.isSubtype (.inr ha),
        hagree.isAssignable (.inr ha) (.inr hb), hagree.classify (.inr ha)⟩
    · intro other hother
      exact Entries.get?_put_of_ne _ _ hother.symm

end Registry

/-! ## A class that goes by an unused identity -/

namespace Sample.Extended

def min : TypeId := ⟨34⟩
def left : TypeId := ⟨35⟩
def right : TypeId := ⟨36⟩

/-- A guard that carries itself, and a class whose supertype is not there. -/
def registry (supertype : TypeId) : Registry Unit := Registry.initial.after [
  .declareAnnotationType "app" "Min" { metas := [{ type := .guardMarker }, { type := min }] },
  .declareClass "app" "Left" { supertypes := [supertype] }]

def declaration : RegistryChange Unit :=
  .declareNested left "Right" { supertypes := [.string] }

def extended (supertype : TypeId) : Registry Unit := ((registry supertype).attempt declaration).2

end Sample.Extended

namespace Registry

open Sample.Extended

/-- The supertype that is not there is another one than the class that is declared, so it
    still is not there. -/
theorem declaration_disturbs_nothing_sample :
    (registry ⟨99⟩).Reached ∧
    (registry ⟨99⟩).attempt declaration = (.ok (some right), extended ⟨99⟩) ∧
    ¬ (registry ⟨99⟩).Mentioned right ∧
    (extended ⟨99⟩).isSubtype left .string = false ∧
    AnnotationGuards.classify (extended ⟨99⟩) min =
      .error ⟨[min, min], ["app.Min", "app.Min"]⟩ := by
  have hreached : (registry ⟨99⟩).Reached := ⟨_, rfl⟩
  have hdeclare : (registry ⟨99⟩).attempt declaration = (.ok (some right), extended ⟨99⟩) := by rfl
  have hunmentioned : ¬ (registry ⟨99⟩).Mentioned right := by decide
  obtain ⟨hsame, -⟩ := declaration_disturbs_nothing hreached hdeclare hunmentioned
  obtain ⟨-, -, hsubtype, -, -⟩ := hsame left .string (by decide) (by decide)
  obtain ⟨-, -, -, -, hverdict⟩ := hsame min min (by decide) (by decide)
  exact ⟨hreached, hdeclare, hunmentioned, hsubtype.trans (by decide), hverdict.trans rfl⟩

/-- Where the class had been mentioned, its declaration lets the older one have supertypes. -/
example : (registry right).isSubtype left .string = false ∧
    (extended right).isSubtype left .string = true := by decide

end Registry

end AnnotationGuards
