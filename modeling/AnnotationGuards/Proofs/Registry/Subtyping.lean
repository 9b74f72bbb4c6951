import AnnotationGuards.Proofs.Graph.Reachable
import AnnotationGuards.Registry.Subtyping

/-! # Subtypes by what classes declare

    The search for supertypes is compared with the relation that it computes.

    * `Registry.Declares`: a class declares a supertype.
    * `Registry.mem_ancestors_iff`: the types above a type are those that it declares, and
      that these declare in turn.
    * `Registry.isSubtype_iff`: what subtypes are, over any declared supertypes, cycles
      among them included.
    * `Registry.Assignable`, `Registry.isAssignable_iff`: where a value of a type may be
      passed.
    * **`Registry.subtyping_exact`**: both relations are what classes declare, and orders
      as long as nothing is declared above the top of the hierarchy. -/

namespace AnnotationGuards

namespace Registry

open Relation

variable {σ : Type} {r : Registry σ} {s t : TypeId}

/-- The class `s` declares `t` as a supertype. -/
def Declares (r : Registry σ) (s t : TypeId) : Prop := t ∈ r.supertypes s

theorem exists_class_of_declares (h : r.Declares s t) : ∃ c, r.class? s = some c := by
  unfold Declares supertypes at h
  cases hclass : r.class? s with
  | none =>
    rw [hclass] at h
    cases h
  | some c => exact ⟨c, rfl⟩

theorem get?_of_class? {c : ClassDef σ} (h : r.class? t = some c) :
    ∃ d, r.get? t = some d ∧ d.class? = some c :=
  Option.bind_eq_some_iff.mp h

/-- Only registered types declare supertypes. -/
theorem supertypes_of_not_mem_ids (h : t ∉ r.ids) : r.supertypes t = [] := by
  refine List.eq_nil_iff_forall_not_mem.mpr fun s hs => ?_
  obtain ⟨c, hc⟩ := exists_class_of_declares hs
  obtain ⟨d, hd, -⟩ := get?_of_class? hc
  exact h (mem_ids_of_get? hd)

/-- The search for what lies above a type comes to its end, and in one way only. -/
theorem searches_iff {found : List TypeId} :
    Graph.Searches r.supertypes (r.supertypes s) [] found ↔ found = r.ancestors s := by
  have hsearch : Graph.Searches r.supertypes (r.supertypes s) [] (r.ancestors s) :=
    Graph.searches_reachable fun _ => supertypes_of_not_mem_ids
  constructor
  · exact hsearch.unique
  · rintro rfl
    exact hsearch

theorem mem_ancestors_iff : t ∈ r.ancestors s ↔ TransGen r.Declares s t := by
  unfold ancestors
  rw [Graph.mem_reachable_iff fun _ => supertypes_of_not_mem_ids]
  show (∃ m, r.Declares s m ∧ ReflTransGen r.Declares m t) ↔ _
  exact TransGen.head'_iff.symm

/-- A type is a subtype of itself, and a registered class or annotation type is one of the
    top of the hierarchy and of whatever lies above it. -/
theorem isSubtype_iff : r.isSubtype s t = true ↔
    s = t ∨ r.isReference s = true ∧ (t = .object ∨ TransGen r.Declares s t) := by
  simp [isSubtype, ← mem_ancestors_iff]

/-! ## Assignability -/

/-- A value of type `s` may be passed where `t` is declared: the types are the same, or
    both are references and `t` is the top of the hierarchy or lies above `s`. A primitive
    goes to itself only. -/
def Assignable (r : Registry σ) (s t : TypeId) : Prop :=
  s = t ∨ r.isReference s = true ∧ r.primitive? t = none ∧ (t = .object ∨ TransGen r.Declares s t)

theorem primitive?_of_isReference (h : r.isReference s = true) : r.primitive? s = none := by
  simp only [isReference, Bool.and_eq_true, Option.isNone_iff_eq_none] at h
  exact h.1.2

theorem isAssignable_iff : r.isAssignable s t = true ↔ r.Assignable s t := by
  unfold isAssignable Assignable
  by_cases hsame : s = t
  · subst hsame
    simp [isSubtype]
  -- Between different types everything hangs on both being references.
  · cases hs : r.primitive? s with
    | some p =>
      have hno : r.isReference s ≠ true := fun h => by simp [primitive?_of_isReference h] at hs
      simp [hsame, hno]
    | none =>
      cases ht : r.primitive? t with
      | some p => simp [hsame]
      | none => simp [isSubtype_iff, hsame]

instance : Decidable (r.Assignable s t) := decidable_of_iff _ isAssignable_iff

theorem isAssignable_of_primitive (h : r.primitive? s ≠ none ∨ r.primitive? t ≠ none) :
    r.isAssignable s t = true ↔ s = t := by
  have hsome : ((r.primitive? s).isSome || (r.primitive? t).isSome) = true := by
    simpa [Option.isSome_iff_ne_none] using h
  unfold isAssignable
  rw [if_pos hsome, decide_eq_true_iff]

theorem isAssignable_of_reference (hs : r.primitive? s = none) (ht : r.primitive? t = none) :
    r.isAssignable s t = r.isSubtype s t := by
  simp [isAssignable, hs, ht]

/-! ## Orders -/

theorem isReference_iff :
    r.isReference t = true ↔ (r.get? t).isSome = true ∧ r.primitive? t = none ∧ t ≠ .void := by
  simp [isReference, and_assoc]

theorem isSubtype_refl (t : TypeId) : r.isSubtype t t = true :=
  isSubtype_iff.mpr (.inl rfl)

theorem isAssignable_refl (t : TypeId) : r.isAssignable t t = true :=
  isAssignable_iff.mpr (.inl rfl)

/-- The top of the hierarchy lies above a type without being declared there. So the way up
    may be broken at the top, unless nothing is declared above the top itself. -/
theorem above_trans (htop : r.supertypes .object = []) {a b c : TypeId}
    (hab : b = .object ∨ TransGen r.Declares a b) (hbc : c = .object ∨ TransGen r.Declares b c) :
    c = .object ∨ TransGen r.Declares a c := by
  rcases hbc with rfl | hbc
  · exact .inl rfl
  · rcases hab with rfl | hab
    · obtain ⟨d, hd, -⟩ := TransGen.head'_iff.mp hbc
      unfold Declares at hd
      rw [htop] at hd
      cases hd
    · exact .inr (hab.trans hbc)

theorem isSubtype_trans (htop : r.supertypes .object = []) {a b c : TypeId}
    (hab : r.isSubtype a b = true) (hbc : r.isSubtype b c = true) : r.isSubtype a c = true := by
  rcases isSubtype_iff.mp hab with rfl | ⟨ha, hb⟩
  · exact hbc
  · rcases isSubtype_iff.mp hbc with rfl | ⟨-, hc⟩
    · exact hab
    · exact isSubtype_iff.mpr (.inr ⟨ha, above_trans htop hb hc⟩)

theorem isAssignable_trans (htop : r.supertypes .object = []) {a b c : TypeId}
    (hab : r.isAssignable a b = true) (hbc : r.isAssignable b c = true) :
    r.isAssignable a c = true := by
  rcases isAssignable_iff.mp hab with rfl | ⟨ha, -, hb⟩
  · exact hbc
  · rcases isAssignable_iff.mp hbc with rfl | ⟨-, hprimitive, hc⟩
    · exact hab
    · exact isAssignable_iff.mpr (.inr ⟨ha, hprimitive, above_trans htop hb hc⟩)

/-- **Subtyping is exactly the declared closure**, whatever the classes of a registry
    declare as their supertypes: each other in circles, a type twice, types that are not
    there, primitives, annotation types.

    1. The search for the types above a type comes to its end by itself, and yields the
       types by which the question is answered.
    2. A type is a subtype of itself; and a registered type that is neither a primitive nor
       void is one of the top of the hierarchy, and of all that is reached from it by one
       or more declared steps through classes.
    3. Where one of two types is a primitive, only the same type is assignable to it; all
       others are assignable to what they are subtypes of.
    4. Both relations are reflexive and, as long as the top declares no supertype,
       transitive. -/
theorem subtyping_exact (r : Registry σ) :
    (∀ a found, Graph.Searches r.supertypes (r.supertypes a) [] found ↔ found = r.ancestors a) ∧
    (∀ a b, r.isSubtype a b = true ↔
      a = b ∨ ((r.get? a).isSome = true ∧ r.primitive? a = none ∧ a ≠ .void) ∧
        (b = .object ∨ TransGen r.Declares a b)) ∧
    (∀ a b, (r.primitive? a ≠ none ∨ r.primitive? b ≠ none →
        (r.isAssignable a b = true ↔ a = b)) ∧
      (r.primitive? a = none → r.primitive? b = none →
        r.isAssignable a b = r.isSubtype a b)) ∧
    (∀ a, r.isSubtype a a = true ∧ r.isAssignable a a = true) ∧
    (r.supertypes .object = [] → ∀ a b c,
      (r.isSubtype a b = true → r.isSubtype b c = true → r.isSubtype a c = true) ∧
      (r.isAssignable a b = true → r.isAssignable b c = true → r.isAssignable a c = true)) := by
  refine ⟨fun a found => searches_iff, ?_, ?_, ?_, ?_⟩
  · intro a b
    rw [isSubtype_iff, isReference_iff]
  · intro a b
    exact ⟨isAssignable_of_primitive, isAssignable_of_reference⟩
  · intro a
    exact ⟨isSubtype_refl a, isAssignable_refl a⟩
  · intro htop a b c
    exact ⟨isSubtype_trans htop, isAssignable_trans htop⟩

end Registry

/-! ## Supertypes of all kinds -/

namespace Sample.Knotted

def left : TypeId := ⟨34⟩
def right : TypeId := ⟨35⟩
def note : TypeId := ⟨36⟩
def missing : TypeId := ⟨99⟩

/-- Two classes declare each other, one of them twice, and the other one declares a
    primitive, an annotation type and a type that is not there. -/
def registry : Registry Unit where
  types := Registry.builtinTypes ++ [
    { name := "Left", package := "app", kind := .classType { supertypes := [right, right] } },
    { name := "Right", package := "app"
      kind := .classType { supertypes := [left, .int, note, missing] } },
    { name := "Note", package := "app", kind := .annotationType {} }]

end Sample.Knotted

namespace Registry

open Sample.Knotted

/-- All that the second class declares lies above the first one. But what is declared above
    is no class: values are not passed to a primitive, and the type that is not there has
    nothing above it. -/
theorem subtyping_exact_knotted :
    registry.supertypes .object = [] ∧
    registry.isSubtype left right = true ∧ registry.isSubtype right missing = true ∧
    registry.isSubtype left missing = true ∧ registry.isAssignable left missing = true ∧
    registry.isSubtype left .int = true ∧ ¬ registry.isAssignable left .int = true ∧
    registry.isSubtype note .object = true ∧ ¬ registry.isSubtype missing .object = true := by
  obtain ⟨-, hsub, hassign, -, htrans⟩ := subtyping_exact registry
  have htop : registry.supertypes .object = [] := rfl
  have hleft : registry.isSubtype left right = true := by decide
  have hmissing : registry.isSubtype right missing = true := by decide
  have hint : registry.isSubtype right .int = true := by decide
  have habove : registry.isSubtype left missing = true :=
    (htrans htop left right missing).1 hleft hmissing
  refine ⟨htop, hleft, hmissing, habove, ?_, (htrans htop left right .int).1 hleft hint, ?_, ?_, ?_⟩
  · rw [(hassign left missing).2 rfl rfl]
    exact habove
  · intro h
    have hsame := ((hassign left .int).1 (.inr (by decide))).mp h
    exact absurd hsame (by decide)
  · exact (hsub note .object).mpr (.inr ⟨⟨rfl, rfl, by decide⟩, .inl rfl⟩)
  · intro h
    rcases (hsub missing .object).mp h with hsame | ⟨⟨hthere, -⟩, -⟩
    · exact absurd hsame (by decide)
    · cases hthere

/-- With handler code the top of the hierarchy gains a supertype, which strings do not
    have. -/
example : ∃ r : Registry Unit, initial.setHandler .object {} = .ok r ∧
    r.isSubtype .string .object = true ∧ r.isSubtype .object .guardHandler = true ∧
    r.isSubtype .string .guardHandler = false :=
  ⟨_, rfl, rfl, rfl, rfl⟩

end Registry

end AnnotationGuards
