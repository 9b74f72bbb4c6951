import AnnotationGuards.Proofs.Chain.Contribution
import AnnotationGuards.Proofs.Registry.Outline

/-! # The skeleton of a registry

    Much of what the engine asks of a registry hangs neither on the members of classes nor
    on what guard markers say: names, subtypes, texts of annotations, which types are
    guards and which guards they are composed of, how a handler is looked up, matched and
    built. All of this is the same in the skeleton of the registry, so registries that have
    one skeleton agree on it.

    * `Registry.skeleton`: the registry without members, and with markers that say nothing.
    * `classify_skeleton`, `Registry.impliedGuards_skeleton`: guards are the same.
    * `MatchedTest.find_skeleton`, `Instantiator.instantiate_skeleton`: so are tests and
      handlers.
    * `Link.contributeOwn_skeleton`: so a guard with a given definition contributes the
      same to a chain. -/

namespace AnnotationGuards

variable {σ : Type} {r : Registry σ} {config : GuardConfig}

/-! ## Skeletons -/

/-- The annotation; a marker without what it says. -/
def Annotation.skeleton (a : Annotation) : Annotation :=
  if a.type = .guardMarker then ⟨.guardMarker, []⟩ else a

/-- The annotation type with markers that say nothing. -/
def AnnotationDef.skeleton (d : AnnotationDef) : AnnotationDef :=
  { d with metas := d.metas.map Annotation.skeleton }

/-- The class without its members. -/
def ClassDef.skeleton (d : ClassDef σ) : ClassDef σ := { d with members := [] }

/-- The registry without members, and with markers that say nothing. -/
abbrev Registry.skeleton (r : Registry σ) : Registry σ :=
  r.mapContents ClassDef.skeleton AnnotationDef.skeleton

namespace Annotation

@[simp] theorem type_skeleton (a : Annotation) : a.skeleton.type = a.type := by
  unfold skeleton
  split
  · next h => exact h.symm
  · rfl

theorem skeleton_of_not_marker {a : Annotation} (h : a.type ≠ .guardMarker) : a.skeleton = a :=
  if_neg h

end Annotation

namespace Registry

variable (r) (t : TypeId)

/-- The outline has no members and no metas at all. -/
@[simp] theorem outline_skeleton : r.skeleton.outline = r.outline :=
  r.mapContents_mapContents ..

/-! ## Types -/

@[simp] theorem handler?_skeleton : r.skeleton.handler? t = r.handler? t := by
  cases h : r.class? t <;> simp [handler?, h, ClassDef.skeleton]

@[simp] theorem isSubtype_skeleton (sup : TypeId) :
    r.skeleton.isSubtype t sup = r.isSubtype t sup := by
  rw [← isSubtype_outline, outline_skeleton, isSubtype_outline]

/-! ## Attributes and texts -/

@[simp] theorem default?_skeleton : r.skeleton.default? t = r.default? t := by
  funext name
  cases h : r.annotation? t with
  | none => simp [default?, h]
  | some d =>
    simp only [default?, annotation?_mapContents, h, Option.map_some, Option.bind_some]
    rfl

@[simp] theorem declaredNames_skeleton : r.skeleton.declaredNames t = r.declaredNames t := by
  unfold declaredNames
  rw [annotation?_mapContents]
  cases r.annotation? t <;> rfl

@[simp] theorem attribute?_skeleton (a : Annotation) :
    r.skeleton.attribute? a = r.attribute? a := by
  funext name
  simp [attribute?]

@[simp] theorem attributes_skeleton (a : Annotation) :
    r.skeleton.attributes a = r.attributes a := by
  simp [attributes, declaredAttributes]

theorem defaultDepth_skeleton : r.skeleton.defaultDepth = r.defaultDepth := by
  unfold defaultDepth
  rw [types_mapContents, List.foldr_map]
  congr 1
  funext d total
  rw [TypeDef.annotation?_mapContent]
  cases d.annotation? <;> rfl

@[simp] theorem renderDepth_skeleton (a : Annotation) :
    r.skeleton.renderDepth a = r.renderDepth a := by
  simp [renderDepth, defaultDepth_skeleton]

@[simp] theorem renderWith_skeleton (render : AttrValue → Option String) :
    r.skeleton.renderWith render = r.renderWith render := by
  funext a
  simp [renderWith]

theorem renderAttr?_skeleton (depth : Nat) :
    r.skeleton.renderAttr? depth = r.renderAttr? depth := by
  induction depth with
  | zero => rfl
  | succ depth ih =>
    funext quoted v
    cases v with
    | bool | int | double | str => rfl
    | type t => simp [renderAttr?]
    | array items => simp [renderAttr?, ih]
    | nested t attributes => simp [renderAttr?, ih]

@[simp] theorem renderAnnotation?_skeleton (a : Annotation) :
    r.skeleton.renderAnnotation? a = r.renderAnnotation? a := by
  simp [renderAnnotation?, renderAttr?_skeleton]

@[simp] theorem renderTemplate?_skeleton (template : String) (a : Annotation) :
    r.skeleton.renderTemplate? template a = r.renderTemplate? template a := by
  have hpiece : r.skeleton.renderPiece? a = r.renderPiece? a := by
    funext piece
    cases piece <;> simp [renderPiece?, renderAttr?_skeleton]
  simp [renderTemplate?, hpiece]

/-! ## Guards -/

@[simp] theorem metas_skeleton : r.skeleton.metas t = (r.metas t).map Annotation.skeleton :=
  r.metas_mapContents ClassDef.skeleton t fun _ => rfl

end Registry

/-- A meta is read for its type alone. -/
theorem MetaGraph.Draft.readMeta_skeleton (r : Registry σ) (current : TypeId) (d : Draft)
    (m : Annotation) : readMeta r.skeleton current d m.skeleton = readMeta r current d m := by
  simp [readMeta, Registry.isMetaEdge]

theorem MetaGraph.Draft.readAll_skeleton (r : Registry σ) (fuel : Nat) (d : Draft) :
    readAll r.skeleton fuel d = readAll r fuel d := by
  induction fuel generalizing d with
  | zero => rfl
  | succ fuel ih =>
    rcases d with ⟨graph, _ | ⟨current, pending⟩⟩
    · rfl
    · unfold readAll
      rw [Registry.metas_skeleton, List.foldl_map, ih]
      simp only [readMeta_skeleton]

/-- What is a guard depends on the skeleton alone. -/
@[simp] theorem classify_skeleton (r : Registry σ) (t : TypeId) :
    classify r.skeleton t = classify r t := by
  have hbuild : MetaGraph.build r.skeleton t = MetaGraph.build r t := by
    simp [MetaGraph.build, MetaGraph.Draft.readAll_skeleton]
  simp [classify, hbuild]

namespace Registry

variable (r) (config)

@[simp] theorem isGuardLike_skeleton : r.skeleton.isGuardLike = r.isGuardLike := by
  funext a
  simp [isGuardLike]

/-- What is found among metas is found with all that it says, as no marker is found. -/
theorem impliedGuards_skeleton (metas : List Annotation) :
    r.skeleton.impliedGuards (metas.map Annotation.skeleton) = r.impliedGuards metas := by
  induction metas with
  | nil => rfl
  | cons a rest ih =>
    simp only [List.map_cons, impliedGuards, Annotation.type_skeleton, classify_skeleton, ih]
    by_cases hsilent : isSilentMeta a.type = true
    · simp [hsilent]
    · -- The search passes markers over, and of the others nothing is missing.
      have hmarker : a.type ≠ .guardMarker := by
        intro h
        simp [isSilentMeta, h] at hsilent
      have hsame : a.skeleton = a := Annotation.skeleton_of_not_marker hmarker
      rw [hsame]

theorem validateHandler_skeleton (guard : String) (h : TypeId) :
    r.skeleton.validateHandler guard h = r.validateHandler guard h := by
  cases hclass : r.class? h <;> simp [validateHandler, hclass, ClassDef.skeleton]

theorem conventionalHandler_skeleton (t : TypeId) :
    r.skeleton.conventionalHandler config t = r.conventionalHandler config t := by
  cases h : r.get? t <;>
    simp [conventionalHandler, h, nestedHandler?, nestedHandlerName, siblingHandlerNames]

@[simp] theorem resolveHandler_skeleton (t : TypeId) (marker : Annotation) :
    r.skeleton.resolveHandler config t marker = r.resolveHandler config t marker := by
  simp [resolveHandler, explicitHandler?, conventionalHandler_skeleton, validateHandler_skeleton]

@[simp] theorem readMarker_skeleton (t : TypeId) (marker : Annotation) :
    GuardDefinition.readMarker r.skeleton config t marker =
      GuardDefinition.readMarker r config t marker := by
  simp [GuardDefinition.readMarker]

end Registry

/-! ## Guards at work -/

theorem MatchedTest.choose_skeleton (r : Registry σ) (tests : List (Test σ)) (testsNull : Bool)
    (t : TypeId) : choose r.skeleton tests testsNull t = choose r tests testsNull t := by
  rw [← choose_outline, Registry.outline_skeleton, choose_outline]

@[simp] theorem MatchedTest.find_skeleton (r : Registry σ) (guard : String) (testsNull : Bool)
    (h : TypeId) (target : GenericType) :
    find r.skeleton guard testsNull h target = find r guard testsNull h target := by
  simp [find, choose_skeleton]

theorem Instantiator.wireFrom_skeleton (r : Registry σ) (name : String) (index : Nat)
    (params : List TypeId) :
    wireFrom r.skeleton name index params = wireFrom r name index params := by
  induction params generalizing index with
  | nil => rfl
  | cons t rest ih => simp [wireFrom, injectionFor?, ih]

@[simp] theorem Instantiator.make_skeleton (r : Registry σ) (h : TypeId) :
    make r.skeleton h = make r h := by
  simp [make, wireFrom_skeleton]

theorem Instantiator.arguments_skeleton (r : Registry σ) (name : String) (a : Annotation)
    (target : GenericType) (wiring : List Injection) :
    arguments r.skeleton name a target wiring = arguments r name a target wiring := by
  induction wiring with
  | nil => rfl
  | cons injection rest ih => cases injection <;> simp [arguments, ih]

@[simp] theorem Instantiator.instantiate_skeleton (r : Registry σ) (i : Instantiator σ)
    (a : Annotation) (target : GenericType) (contain : Bool) :
    i.instantiate r.skeleton a target contain = i.instantiate r a target contain := by
  simp [instantiate, arguments_skeleton]

namespace Link

variable (target : Target)

theorem message?_skeleton (r : Registry σ) (marking : Marking) (a : Annotation) :
    message? r.skeleton marking a = message? r marking a := by
  simp [message?]

theorem instanceOf_skeleton (r : Registry σ) (path : List String) (a : Annotation)
    (marking : Marking) (test : MatchedTest σ) (handler : σ) (message : String) :
    instanceOf ⟨r.skeleton, config⟩ target path a marking test handler message =
      instanceOf ⟨r, config⟩ target path a marking test handler message := by
  simp [instanceOf, skipsNull, Target.describe]

theorem contributeOwn_skeleton (r : Registry σ) (path : List String) (a : Annotation)
    (d : GuardDefinition) :
    contributeOwn ⟨r.skeleton, config⟩ target path a d =
      contributeOwn ⟨r, config⟩ target path a d := by
  simp [contributeOwn, contributeInstance, message?_skeleton, instanceOf_skeleton]

end Link

end AnnotationGuards
