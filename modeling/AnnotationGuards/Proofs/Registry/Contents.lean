import AnnotationGuards.Guard.MetaGraph
import AnnotationGuards.Registry.Naming

/-! # Other contents for the same types

    A registry holds a class or an annotation type under most of its identities. A map over
    these contents leaves the identities, the names and the primitives as they are; so do
    the erasures that are made with it, each of which takes away what some part of the
    engine does not look at.

    * `Registry.mapContents`: the registry with every class and every annotation type
      replaced by what two functions make of it.
    * `Registry.mapContents_mapContents`: one map after the other is a map again, so a finer
      erasure before a coarser one makes no difference.
    * `Registry.class?_mapContents`, `Registry.metas_mapContents`: what is found is what the
      functions make of what was found before.
    * `Registry.qualifiedName_mapContents`, `Registry.renderType_mapContents`: names are the
      same, whatever the functions do. -/

namespace AnnotationGuards

variable {σ : Type} (f f' : ClassDef σ → ClassDef σ) (g g' : AnnotationDef → AnnotationDef)

/-! ## The map -/

/-- The content of a type, as a function makes it of a class or an annotation type. -/
def TypeKind.map : TypeKind σ → TypeKind σ
  | .classType d => .classType (f d)
  | .annotationType d => .annotationType (g d)
  | kind => kind

def TypeDef.mapContent (d : TypeDef σ) : TypeDef σ := { d with kind := d.kind.map f g }

/-- The registry with the contents of all its types mapped. -/
def Registry.mapContents (r : Registry σ) : Registry σ :=
  { r with types := r.types.map (TypeDef.mapContent f g) }

/-! ## Types -/

namespace TypeDef

variable (d : TypeDef σ)

@[simp] theorem name_mapContent : (d.mapContent f g).name = d.name := rfl

@[simp] theorem package_mapContent : (d.mapContent f g).package = d.package := rfl

@[simp] theorem enclosing_mapContent : (d.mapContent f g).enclosing = d.enclosing := rfl

@[simp] theorem class?_mapContent : (d.mapContent f g).class? = d.class?.map f := by
  rcases d with ⟨_, _, _, _ | _ | _ | _⟩ <;> rfl

@[simp] theorem annotation?_mapContent :
    (d.mapContent f g).annotation? = d.annotation?.map g := by
  rcases d with ⟨_, _, _, _ | _ | _ | _⟩ <;> rfl

@[simp] theorem primitive?_mapContent : (d.mapContent f g).primitive? = d.primitive? := by
  rcases d with ⟨_, _, _, _ | _ | _ | _⟩ <;> rfl

theorem mapContent_mapContent :
    (d.mapContent f g).mapContent f' g' = d.mapContent (f' ∘ f) (g' ∘ g) := by
  rcases d with ⟨_, _, _, _ | _ | _ | _⟩ <;> rfl

end TypeDef

namespace Registry

variable (r : Registry σ) (t : TypeId)

/-- **Maps compose**: the first function of each map is followed by that of the second. -/
theorem mapContents_mapContents :
    (r.mapContents f g).mapContents f' g' = r.mapContents (f' ∘ f) (g' ∘ g) := by
  simp [mapContents, TypeDef.mapContent_mapContent]

/-! ## Looking up types -/

theorem types_mapContents :
    (r.mapContents f g).types = r.types.map (TypeDef.mapContent f g) := rfl

@[simp] theorem get?_mapContents :
    (r.mapContents f g).get? t = (r.get? t).map (TypeDef.mapContent f g) := by
  simp [get?, mapContents]

@[simp] theorem getByName?_mapContents : (r.mapContents f g).getByName? = r.getByName? := rfl

@[simp] theorem size_mapContents : (r.mapContents f g).size = r.size := by
  simp [size, mapContents]

@[simp] theorem ids_mapContents : (r.mapContents f g).ids = r.ids := by
  simp [ids]

@[simp] theorem class?_mapContents : (r.mapContents f g).class? t = (r.class? t).map f := by
  cases h : r.get? t <;> simp [class?, h]

@[simp] theorem annotation?_mapContents :
    (r.mapContents f g).annotation? t = (r.annotation? t).map g := by
  cases h : r.get? t <;> simp [annotation?, h]

@[simp] theorem isAnnotation_mapContents :
    Registry.isAnnotation (r.mapContents f g) t = r.isAnnotation t := by
  unfold isAnnotation
  rw [annotation?_mapContents, Option.isSome_map]

@[simp] theorem primitive?_mapContents : (r.mapContents f g).primitive? t = r.primitive? t := by
  cases h : r.get? t <;> simp [primitive?, h]

/-- Where the metas of a declaration are mapped one by one, so are those of each type. -/
theorem metas_mapContents {g : AnnotationDef → AnnotationDef} {change : Annotation → Annotation}
    (hmetas : ∀ d, (g d).metas = d.metas.map change) :
    (r.mapContents f g).metas t = (r.metas t).map change := by
  cases h : r.annotation? t <;> simp [metas, h, hmetas]

/-! ## Names -/

theorem qualifiedNameWithin_mapContents (depth : Nat) :
    (r.mapContents f g).qualifiedNameWithin depth t = r.qualifiedNameWithin depth t := by
  induction depth generalizing t with
  | zero => rfl
  | succ depth ih =>
    -- What is read of a type is its name, its package and the type around it.
    unfold qualifiedNameWithin
    rw [get?_mapContents]
    cases r.get? t with
    | none => rfl
    | some d => cases h : d.enclosing <;> simp [h, ih]

@[simp] theorem qualifiedName_mapContents :
    (r.mapContents f g).qualifiedName = r.qualifiedName := by
  funext t
  exact r.qualifiedNameWithin_mapContents f g t _

@[simp] theorem simpleName_mapContents : (r.mapContents f g).simpleName = r.simpleName := by
  funext t
  unfold simpleName
  rw [get?_mapContents]
  cases r.get? t <;> rfl

mutual

theorem renderTypeOf_mapContents (t : GenericType) :
    (r.mapContents f g).renderType t = r.renderType t := by
  match t with
  | .mk raw [] => simp [renderType]
  | .mk raw (first :: rest) =>
    simp [renderType, renderTypeOf_mapContents first, renderTypes_mapContents rest]

theorem renderTypes_mapContents (ts : List GenericType) :
    (r.mapContents f g).renderTypes ts = r.renderTypes ts := by
  match ts with
  | [] => rfl
  | t :: rest =>
    simp [renderTypes, renderTypeOf_mapContents t, renderTypes_mapContents rest]

end

@[simp] theorem renderType_mapContents : (r.mapContents f g).renderType = r.renderType := by
  funext t
  exact r.renderTypeOf_mapContents f g t

/-- A member is named in the same way by its signature. -/
@[simp] theorem signature_mapContents : (r.mapContents f g).signature = r.signature := by
  funext m
  simp [signature]

end Registry

end AnnotationGuards
