import AnnotationGuards.Handler.Matching
import AnnotationGuards.Proofs.Guard.Definition
import AnnotationGuards.Proofs.Handler.Wiring
import AnnotationGuards.Proofs.Registry.Subtyping

/-! # The handlers that definitions name

    A marker names its handler, or the handler is found by its name, in one of several
    places. Wherever it comes from, it is validated before it goes into a definition, and
    everything that is later asked of it rests on this.

    * `Registry.UsableHandler`: a concrete class with the handler capability and handler
      code.
    * `GuardError.BlamesHandler`: the faults that a lookup of a handler can have.
    * `Registry.validateHandler_eq_ok_iff`: what the validation asks.
    * `Registry.validateHandler_eq_ok`, `Registry.resolveHandler_eq_ok`: what is found is
      usable; `Registry.resolveHandler_eq_error`: and otherwise one of these faults comes
      of it.
    * `GuardDefinition.usable_of_build`: so the handler of any definition is usable,
      whatever verdicts have been reached before.
    * `GuardError.CanOccur`: the faults that are left. `MatchedTest.find_ne_notAHandler`,
      `Instantiator.canOccur_of_make`: what is never amiss with a usable handler. -/

namespace AnnotationGuards

open Relation

variable {σ : Type} {r : Registry σ} {config : GuardConfig} {t h : TypeId} {marker : Annotation}

/-- The type can serve as a handler: a registered class that is not abstract, has the
    handler capability among its supertypes, and has handler code. -/
structure Registry.UsableHandler (r : Registry σ) (h : TypeId) : Prop where
  concrete : ∃ c, r.class? h = some c ∧ c.isAbstract = false ∧ c.handler.isSome = true
  capable : ReflTransGen r.Declares h .guardHandler

/-- What is asked of a handler when it is validated. The handler capability is decided by the
    subtype test. -/
structure Registry.ServesAsHandler (r : Registry σ) (h : TypeId) : Prop where
  concrete : ∃ c, r.class? h = some c ∧ c.isAbstract = false ∧ c.handler.isSome = true
  capable : r.isSubtype h .guardHandler = true

/-- What is wrong is the handler of this guard: there is none, or it cannot serve. -/
inductive GuardError.BlamesHandler (guard : String) : GuardError → Prop
  | noHandler (searched : List String) : BlamesHandler guard (.noHandler guard searched)
  | abstractHandler (handler : String) : BlamesHandler guard (.abstractHandler guard handler)
  | notAHandler (handler : String) : BlamesHandler guard (.notAHandler guard handler)

namespace Registry

/-! ## Looking up a handler -/

theorem reflTransGen_of_isSubtype (hsub : r.isSubtype h .guardHandler = true) :
    ReflTransGen r.Declares h .guardHandler := by
  rcases isSubtype_iff.mp hsub with rfl | ⟨-, habsurd | habove⟩
  · exact .refl
  · exact absurd habsurd (by decide)
  · exact habove.to_reflTransGen

/-- What is validated is what serves: nothing else is asked, and the guard's name has no part
    in it. -/
theorem validateHandler_eq_ok_iff {guard : String} :
    r.validateHandler guard h = .ok () ↔ r.ServesAsHandler h := by
  unfold validateHandler
  constructor
  · intro hvalid
    cases hclass : r.class? h with
    | none =>
      rw [hclass] at hvalid
      cases hvalid
    | some c =>
      rw [hclass] at hvalid
      dsimp only at hvalid
      split at hvalid
      · cases hvalid
      · next habstract =>
        split at hvalid
        · cases hvalid
        · next hserves =>
          rw [Bool.or_eq_true, not_or] at hserves
          obtain ⟨hsub, hcode⟩ := hserves
          have hsome : c.handler.isSome = true := by
            simpa [Option.isSome_iff_ne_none] using hcode
          exact ⟨⟨c, hclass, by simpa using habstract, hsome⟩, by simpa using hsub⟩
  · rintro ⟨⟨c, hclass, habstract, hsome⟩, hsub⟩
    have hnone : c.handler.isNone = false := by
      rw [Option.isNone_eq_false_iff]
      exact hsome
    rw [hclass]
    dsimp only
    rw [habstract, hsub, hnone]
    rfl

theorem validateHandler_eq_ok {guard : String} (hvalid : r.validateHandler guard h = .ok ()) :
    r.UsableHandler h := by
  obtain ⟨hconcrete, hsub⟩ := validateHandler_eq_ok_iff.mp hvalid
  exact ⟨hconcrete, reflTransGen_of_isSubtype hsub⟩

theorem validateHandler_eq_error {guard : String} {e : GuardError}
    (hvalid : r.validateHandler guard h = .error e) : e.BlamesHandler guard := by
  unfold validateHandler at hvalid
  split at hvalid
  · cases hvalid
    exact .notAHandler _
  · split at hvalid
    · cases hvalid
      exact .abstractHandler _
    · split at hvalid
      · cases hvalid
        exact .notAHandler _
      · cases hvalid

/-- A handler that is looked up for a registered type is found, or there is none. -/
theorem conventionalHandler_eq_error {e : GuardError} (hreg : (r.get? t).isSome)
    (hfound : r.conventionalHandler config t = .error e) :
    e.BlamesHandler (r.qualifiedName t) := by
  obtain ⟨d, hd⟩ := Option.isSome_iff_exists.mp hreg
  unfold conventionalHandler at hfound
  rw [hd] at hfound
  dsimp only at hfound
  split at hfound
  · cases hfound
  · split at hfound
    · cases hfound
    · cases hfound
      exact .noHandler _

/-- What has been found comes back if it passes the validation. -/
theorem bind_validateHandler (guard : String) (found : TypeId) :
    (r.validateHandler guard found >>= fun _ => pure found) =
      (fun _ => found) <$> r.validateHandler guard found :=
  bind_pure_comp _ _

/-- A handler is looked up in vain, or what has been found is validated. -/
theorem resolveHandler_cases (r : Registry σ) (config : GuardConfig) (t : TypeId)
    (marker : Annotation) :
    (∃ e, r.conventionalHandler config t = .error e ∧
      r.resolveHandler config t marker = .error e) ∨
    ∃ found, r.resolveHandler config t marker =
      (fun _ => found) <$> r.validateHandler (r.qualifiedName t) found := by
  unfold resolveHandler
  cases r.explicitHandler? marker with
  | some found => exact Or.inr ⟨found, bind_validateHandler _ found⟩
  | none =>
    cases r.conventionalHandler config t with
    | error e => exact Or.inl ⟨e, rfl, rfl⟩
    | ok found => exact Or.inr ⟨found, bind_validateHandler _ found⟩

/-- Whatever has found it, a handler has been validated. -/
theorem resolveHandler_eq_ok (hfound : r.resolveHandler config t marker = .ok h) :
    r.UsableHandler h := by
  rcases r.resolveHandler_cases config t marker with ⟨e, -, herror⟩ | ⟨found, hvalidated⟩
  · rw [herror] at hfound
    cases hfound
  · rw [hvalidated] at hfound
    obtain ⟨⟨⟩, hvalid, rfl⟩ := exists_of_map_eq_ok hfound
    exact validateHandler_eq_ok hvalid

/-- What comes of a lookup in vain: the handler is to blame, and nothing else. -/
theorem resolveHandler_eq_error {e : GuardError} (hreg : (r.get? t).isSome)
    (hfound : r.resolveHandler config t marker = .error e) :
    e.BlamesHandler (r.qualifiedName t) := by
  rcases r.resolveHandler_cases config t marker with ⟨e', hlookup, herror⟩ | ⟨found, hvalidated⟩
  · rw [herror] at hfound
    cases hfound
    exact conventionalHandler_eq_error hreg hlookup
  · rw [hvalidated] at hfound
    exact validateHandler_eq_error (eq_error_of_map_eq_error hfound)

end Registry

namespace GuardDefinition

/-! ## Handlers in definitions -/

/-- What a marker is read as names a usable handler. -/
theorem usable_of_readMarker {marking : Marking}
    (hread : readMarker r config t marker = .ok marking) : r.UsableHandler marking.handler := by
  obtain ⟨found, hfound, hrest⟩ := exists_of_bind_eq_ok hread
  cases hrest
  exact Registry.resolveHandler_eq_ok hfound

/-- How a definition is assembled: from the first marker, or without one. -/
theorem assemble_cases (r : Registry σ) (config : GuardConfig) (t : TypeId)
    (metas implied : List Annotation) :
    (metas.find? (fun a => a.type = .guardMarker) = none ∧
      assemble r config t metas implied =
        .ok { type := t, name := r.qualifiedName t, marking := none, implied }) ∨
    ∃ marker, metas.find? (fun a => a.type = .guardMarker) = some marker ∧
      assemble r config t metas implied =
        (fun marking => { type := t, name := r.qualifiedName t, marking := some marking, implied })
          <$> readMarker r config t marker := by
  unfold assemble
  cases metas.find? fun a => a.type = .guardMarker with
  | none => exact Or.inl ⟨rfl, rfl⟩
  | some marker =>
    refine Or.inr ⟨marker, rfl, ?_⟩
    dsimp only
    cases readMarker r config t marker <;> rfl

theorem usable_of_assemble {metas implied : List Annotation} {d : GuardDefinition}
    {marking : Marking} (hassembled : assemble r config t metas implied = .ok d)
    (hmarking : d.marking = some marking) : r.UsableHandler marking.handler := by
  rcases assemble_cases r config t metas implied with ⟨-, heq⟩ | ⟨marker, -, heq⟩
  · rw [heq] at hassembled
    cases hassembled
    cases hmarking
  · rw [heq] at hassembled
    obtain ⟨found, hread, rfl⟩ := exists_of_map_eq_ok hassembled
    cases hmarking
    exact usable_of_readMarker hread

/-- **The handler of a definition is usable** when it is worked out, whatever verdicts the
    table holds, be they those of the registry or of another. -/
theorem usable_of_build {table : VerdictTable} {d : GuardDefinition} {marking : Marking}
    (hbuilt : (build r config table t).1 = .ok (some d)) (hmarking : d.marking = some marking) :
    r.UsableHandler marking.handler := by
  unfold build at hbuilt
  split at hbuilt
  · cases hbuilt
  · cases hbuilt
  · split at hbuilt
    · cases hbuilt
    · next a _ =>
      split at hbuilt
      · cases hbuilt
      · next implied _ _ =>
        obtain ⟨d', hassembled, hsame⟩ := exists_of_map_eq_ok hbuilt
        cases hsame
        exact usable_of_assemble hassembled hmarking

end GuardDefinition

namespace Registry

theorem isSome_get?_of_isAnnotation (h : r.isAnnotation t = true) : (r.get? t).isSome := by
  unfold isAnnotation annotation? at h
  cases hget : r.get? t with
  | none =>
    rw [hget] at h
    cases h
  | some d => rfl

/-- **What is wrong with a definition** is what is wrong with the verdict on its type, or
    the handler of the marker on the type is to blame. -/
theorem definition_eq_error {e : GuardError} (h : r.definition config t = .error e) :
    (∃ cycle, classify r t = .error cycle ∧ e = .circular (r.qualifiedName t) cycle) ∨
      r.Marked t ∧ e.BlamesHandler (r.qualifiedName t) := by
  rcases hverdict : classify r t with cycle | (_ | _)
  · rw [definition_of_error hverdict] at h
    cases h
    exact Or.inl ⟨cycle, rfl, rfl⟩
  · rw [definition_eq_none_iff.mpr hverdict] at h
    cases h
  · have hguard := isGuard_iff.mpr hverdict
    rw [definition_of_isGuard hguard] at h
    have hassembled := eq_error_of_map_eq_error h
    rcases GuardDefinition.assemble_cases r config t (r.metas t) (r.impliedOf t) with
      ⟨-, heq⟩ | ⟨marker, hfind, heq⟩
    · rw [heq] at hassembled
      cases hassembled
    · right
      rw [heq] at hassembled
      have hread := eq_error_of_map_eq_error hassembled
      have hmarked : r.Marked t :=
        ⟨marker, List.mem_of_find?_eq_some hfind, by simpa using List.find?_some hfind⟩
      rcases exists_of_bind_eq_error hread with hresolve | ⟨_, -, hdone⟩
      · have hreg := isSome_get?_of_isAnnotation (isAnnotation_of_isGuard hguard)
        exact ⟨hmarked, resolveHandler_eq_error hreg hresolve⟩
      · cases hdone

/-- In a definition of a frozen registry the handler is usable. -/
theorem usable_of_definition {d : GuardDefinition} {marking : Marking}
    (hd : r.definition config t = .ok (some d)) (hmarking : d.marking = some marking) :
    r.UsableHandler marking.handler := by
  -- It is what is worked out before any verdict has been reached.
  obtain ⟨table, heq, -⟩ := GuardDefinition.build_eq (Entries.agrees_nil (classify r)) config t
  have hbuilt : (GuardDefinition.build r config [] t).1 = .ok (some d) := by
    rw [heq]
    exact hd
  exact GuardDefinition.usable_of_build hbuilt hmarking

end Registry

/-! ## What is never amiss with a usable handler -/

/-- Neither a type that is not there nor a handler class without code: the two faults that
    are ruled out before a guard is put to work. -/
def GuardError.CanOccur : GuardError → Prop
  | .unknownType _ => False
  | .handlerNotImplemented _ => False
  | _ => True

theorem GuardError.BlamesHandler.canOccur {guard : String} {e : GuardError}
    (h : e.BlamesHandler guard) : e.CanOccur := by
  cases h <;> trivial

/-- A definition may have no handler, but it is never that its type is not there. -/
theorem Registry.canOccur_of_definition {e : GuardError} (h : r.definition config t = .error e) :
    e.CanOccur := by
  rcases definition_eq_error h with ⟨cycle, -, rfl⟩ | ⟨-, hblames⟩
  · trivial
  · exact hblames.canOccur

theorem Registry.UsableHandler.exists_code (hh : r.UsableHandler h) :
    ∃ code, r.handler? h = some code := by
  obtain ⟨c, hc, -, hcode⟩ := hh.concrete
  obtain ⟨code, hcode⟩ := Option.isSome_iff_exists.mp hcode
  refine ⟨code, ?_⟩
  unfold Registry.handler?
  rw [hc]
  exact hcode

namespace MatchedTest

variable {guard : String} {testsNull : Bool} {target : GenericType}

/-- A test for the type may be missing, or there may be several, but it is a handler. -/
theorem find_ne_notAHandler (hh : r.UsableHandler h) (guard' handler : String) :
    find r guard testsNull h target ≠ .error (.notAHandler guard' handler) := by
  obtain ⟨code, hcode⟩ := hh.exists_code
  unfold find
  rw [hcode]
  dsimp only
  split <;> exact nofun

theorem canOccur_of_find {e : GuardError} (hfind : find r guard testsNull h target = .error e) :
    e.CanOccur := by
  unfold find at hfind
  split at hfind
  · cases hfind
    trivial
  · split at hfind <;> cases hfind <;> trivial

end MatchedTest

namespace Instantiator

variable {name : String} {e : GuardError}

theorem canOccur_of_chooseConstructor {constructors : List (Constructor σ)}
    (h : chooseConstructor name constructors = .error e) : e.CanOccur := by
  unfold chooseConstructor at h
  split at h <;> cases h <;> trivial

theorem canOccur_of_wireFrom {index : Nat} {params : List TypeId}
    (h : wireFrom r name index params = .error e) : e.CanOccur := by
  induction params generalizing index with
  | nil => cases h
  | cons t rest ih =>
    unfold wireFrom at h
    split at h
    · cases h
      trivial
    · exact ih (eq_error_of_map_eq_error h)

/-- The constructors of a usable handler may not do, but there is code. -/
theorem canOccur_of_make (hh : r.UsableHandler h) (hmake : make r h = .error e) :
    e.CanOccur := by
  obtain ⟨code, hcode⟩ := hh.exists_code
  unfold make at hmake
  dsimp only at hmake
  rw [hcode] at hmake
  rcases exists_of_bind_eq_error hmake with hchoose | ⟨constructor, -, hrest⟩
  · exact canOccur_of_chooseConstructor hchoose
  · rcases exists_of_bind_eq_error hrest with hwire | ⟨wiring, -, hdone⟩
    · exact canOccur_of_wireFrom hwire
    · cases hdone

theorem canOccur_of_arguments {a : Annotation} {target : GenericType} {wiring : List Injection}
    (h : arguments r name a target wiring = .error e) : e.CanOccur := by
  induction wiring with
  | nil => cases h
  | cons injection rest ih =>
    cases injection with
    | applied expected =>
      unfold arguments at h
      split at h
      · exact ih (eq_error_of_map_eq_error h)
      · cases h
        trivial
    | typeToken | rawClass => exact ih (eq_error_of_map_eq_error h)

theorem canOccur_of_instantiate {i : Instantiator σ} {a : Annotation} {target : GenericType}
    {contain : Bool} {calls : List Call}
    (h : i.instantiate r a target contain = (.ok (.error e), calls)) : e.CanOccur := by
  unfold instantiate at h
  cases harguments : arguments r i.handlerName a target i.wiring with
  | error e' =>
    rw [harguments] at h
    cases h
    exact canOccur_of_arguments harguments
  | ok injected =>
    rw [harguments] at h
    have hsettled := congrArg Prod.fst h
    dsimp only at hsettled
    unfold settle at hsettled
    split at hsettled
    · cases hsettled
    · cases hsettled
      trivial
    · split at hsettled <;> cases hsettled
      trivial

end Instantiator

/-! ## Texts of faults -/

theorem head?_toList_append {s : String} {first : Char} (h : s.toList.head? = some first)
    (t : String) : (s ++ t).toList.head? = some first := by
  rw [String.toList_append, List.head?_append, h]
  rfl

namespace GuardError

/-- All texts begin with "illegal guard", "handler" or "unknown type". -/
theorem head?_message (e : GuardError) :
    e.message.toList.head? = some 'i' ∨ e.message.toList.head? = some 'h' ∨
      e.message.toList.head? = some 'u' := by
  cases e
  all_goals unfold message
  case unknownType => exact Or.inr (Or.inr (head?_toList_append (by decide) _))
  case circular | noHandler | abstractHandler | notAHandler | noTest | ambiguousTest =>
    left
    repeat apply head?_toList_append
    decide
  all_goals
    right
    left
    repeat apply head?_toList_append
    decide

/-- A fault of a guard is never shown as a panic. -/
theorem message_ne_panicked (e : GuardError) : e.message ≠ "panicked while linking" := by
  intro heq
  have hpanicked : e.message.toList.head? = some 'p' := by
    rw [heq]
    decide
  rcases e.head?_message with h | h | h
  all_goals
    rw [hpanicked] at h
    exact absurd h (by decide)

end GuardError

end AnnotationGuards
