import AnnotationGuards.Proofs.Chain.Scan
import AnnotationGuards.Proofs.Registry.Hints

/-! # Registries without the annotations on members

    The annotations on members and on their parameters say where guards apply.
    Nothing else that the engine asks of a registry depends on them: not what is a
    guard, nor what a guard is composed of, nor how it is put to work on a target.

    * `Registry.bare`: a registry with these annotations taken away. Two registries
      with the same bare one differ in nothing else.
    * `Registry.sameGuards_of_bare_eq`: guards are the same, and so are all links.
    * `Registry.signature_bare`, `Registry.membersWith_bare`: and so are the members
      that a signature names. -/

namespace AnnotationGuards

variable {σ : Type}

/-! ## Taking the annotations away -/

/-- The parameter without its annotations. -/
def Param.bare (p : Param) : Param := { p with annotations := [] }

/-- The member without the annotations on it and on its parameters. -/
def Member.bare (m : Member) : Member :=
  { m with params := m.params.map Param.bare, annotations := [] }

/-- The class without the annotations on its members. -/
def ClassDef.bare (d : ClassDef σ) : ClassDef σ := { d with members := d.members.map Member.bare }

/-- The registry without the annotations on members. -/
abbrev Registry.bare (r : Registry σ) : Registry σ := r.mapContents ClassDef.bare id

namespace Registry

variable (r : Registry σ) (t : TypeId)

/-- The skeleton has no members at all. -/
@[simp] theorem skeleton_bare : r.bare.skeleton = r.skeleton :=
  r.mapContents_mapContents ..

@[simp] theorem metas_bare : r.bare.metas t = r.metas t := by
  simp [metas]

@[simp] theorem isGuardLike_bare : r.bare.isGuardLike = r.isGuardLike := by
  rw [← r.bare.isGuardLike_skeleton, skeleton_bare, r.isGuardLike_skeleton]

/-- What is a guard, and how, does not depend on where guards apply. -/
theorem sameGuards_of_bare_eq {r r' : Registry σ} (h : r'.bare = r.bare) : r.SameGuards r' where
  skeleton_eq := by
    rw [← r'.skeleton_bare, h, r.skeleton_bare]
  metas_eq := by
    intro t
    rw [← r'.metas_bare, h, r.metas_bare]

end Registry

/-! ## Members -/

/-- A member is named by its signature whatever annotations there are. -/
@[simp] theorem Registry.signature_bare (r : Registry σ) (m : Member) :
    r.signature m.bare = r.signature m := by
  simp [signature, Member.bare, Param.bare, Function.comp_def]

theorem Registry.signature_congr {r r' : Registry σ} {m m' : Member} (hbare : r'.bare = r.bare)
    (hmember : m'.bare = m.bare) : r'.signature m' = r.signature m := by
  have hnames : r'.signature = r.signature := by
    simpa using congrArg signature hbare
  rw [hnames, ← r.signature_bare m', hmember, r.signature_bare]

theorem Registry.membersWith_bare (r : Registry σ) (members : List Member) (s : String) :
    r.bare.membersWith (members.map Member.bare) s = (r.membersWith members s).map Member.bare := by
  simp [membersWith, List.filter_map, Function.comp_def]

end AnnotationGuards
