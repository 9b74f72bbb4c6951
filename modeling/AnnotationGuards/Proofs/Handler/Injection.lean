import AnnotationGuards.Proofs.Handler.Wiring
import AnnotationGuards.Proofs.Registry.Changes

/-! # The constructor that is used, and what it receives

    Two counts choose the constructor of a handler class, that of the public constructors
    and that of the designated ones. A constructor can be both, or neither. Its parameters
    are wired once, before there is anything to inject, and the arguments of a run are put
    together along the wiring, in a walk that can break off at an annotation of another
    type.

    * `Instantiator.Chosen`: the constructor that the two counts single out, and
      `Instantiator.chooseConstructor_cases`: it is chosen, or the counts are to blame.
    * `Registry.Injectable`, `Instantiator.Wires`: parameters that can be wired, and a
      wiring that goes along them.
    * `Instantiator.argumentFor`: what a parameter receives.
    * `Instantiator.arguments_of_matching`, `Instantiator.arguments_of_mismatch`: the
      arguments are in line with the parameters, or there are none.
    * **`Instantiator.choice_and_injection`**: the whole way, from the constructors of a
      class to the run of one of them. -/

namespace AnnotationGuards

variable {σ : Type} {r : Registry σ} {t : TypeId}

/-! ## Parameters -/

namespace Registry

/-- There is something to inject into a parameter of the type: the target's generic type,
    its raw class, or the guard annotation. -/
def Injectable (r : Registry σ) (t : TypeId) : Prop :=
  t = .typeToken ∨ t = .rawClass ∨ r.isAnnotation t = true

/-- A parameter of the type receives the guard annotation: it is an annotation type, and
    neither of the two types that stand for the target. -/
def TakesAnnotation (r : Registry σ) (t : TypeId) : Prop :=
  r.isAnnotation t = true ∧ t ≠ .typeToken ∧ t ≠ .rawClass

/-- What a class among the built-in types was declared as, it stays. -/
theorem isAnnotation_of_builtin_class (h : r.Reached) {d : TypeDef σ} {c : ClassDef σ}
    (hget : (initial : Registry σ).get? t = some d) (hkind : d.kind = .classType c) :
    r.isAnnotation t = false := by
  obtain ⟨changes, rfl⟩ := h
  obtain ⟨d', hget', hsame⟩ := growsTo_after initial changes t d hget
  have hsort := hsame.sort
  rw [hkind] at hsort
  have hnone : d'.annotation? = none := by
    unfold TypeDef.annotation?
    generalize d'.kind = kind at hsort
    cases hsort
    rfl
  unfold isAnnotation annotation?
  rw [hget']
  show d'.annotation?.isSome = false
  rw [hnone]
  rfl

/-- In a registry that has come about by changes, the two types that stand for the target
    are classes. -/
theorem Reached.takesAnnotation_iff (h : r.Reached) (t : TypeId) :
    r.TakesAnnotation t ↔ r.isAnnotation t = true := by
  constructor
  · intro htakes
    exact htakes.1
  · intro hann
    have hne : ∀ s, r.isAnnotation s = false → t ≠ s := by
      rintro s hs rfl
      rw [hs] at hann
      cases hann
    exact ⟨hann, hne _ (isAnnotation_of_builtin_class h rfl rfl),
      hne _ (isAnnotation_of_builtin_class h rfl rfl)⟩

end Registry

namespace Instantiator

variable {name : String} {constructors : List (Constructor σ)} {c : Constructor σ}

/-! ## The choice -/

/-- The constructor is the only one in the list with the property. -/
def IsOnly (p : Constructor σ → Bool) (constructors : List (Constructor σ))
    (c : Constructor σ) : Prop :=
  ∃ before after, constructors = before ++ c :: after ∧ p c = true ∧
    ∀ other ∈ before ++ after, p other = false

theorem isOnly_iff {p : Constructor σ → Bool} :
    IsOnly p constructors c ↔ constructors.filter p = [c] := by
  constructor
  · rintro ⟨before, after, rfl, hc, hothers⟩
    have hnone : ∀ part : List (Constructor σ), (∀ other ∈ part, other ∈ before ++ after) →
        part.filter p = [] := by
      intro part hpart
      rw [List.filter_eq_nil_iff]
      intro other hother
      rw [hothers other (hpart other hother)]
      exact Bool.false_ne_true
    rw [List.filter_append, List.filter_cons_of_pos hc,
      hnone before fun _ => List.mem_append_left _, hnone after fun _ => List.mem_append_right _]
    rfl
  · intro h
    obtain ⟨before, after, rfl, hbefore, hc, hafter⟩ := List.filter_eq_cons_iff.mp h
    refine ⟨before, after, rfl, hc, ?_⟩
    intro other hother
    rw [List.filter_eq_nil_iff] at hafter
    rcases List.mem_append.mp hother with hother | hother
    · exact Bool.eq_false_iff.mpr (hbefore other hother)
    · exact Bool.eq_false_iff.mpr (hafter other hother)

/-- The constructor to use: the only public one or, where there is no such one, the only
    designated one. -/
inductive Chosen (constructors : List (Constructor σ)) (c : Constructor σ) : Prop
  | onlyPublic (h : IsOnly (·.isPublic) constructors c)
  | onlyDesignated (hpublic : ∀ other, ¬ IsOnly (·.isPublic) constructors other)
    (h : IsOnly (·.isDesignated) constructors c)

/-- Where there is not exactly one public constructor, the designated ones decide. -/
theorem chooseConstructor_of_no_public
    (hpublic : ∀ c, ¬ IsOnly (·.isPublic) constructors c) :
    chooseConstructor name constructors =
      match constructors.filter (·.isDesignated) with
      | [only] => .ok only
      | [] => .error (.noSuitableConstructor name)
      | many => .error (.multipleDesignated name many.length) := by
  unfold chooseConstructor
  generalize hlist : constructors.filter (·.isPublic) = publicOnes
  generalize constructors.filter (·.isDesignated) = designatedOnes
  match publicOnes, designatedOnes with
  | [only], _ => exact absurd (isOnly_iff.mpr hlist) (hpublic only)
  | [], [] | [], [_] | [], _ :: _ :: _ => rfl
  | _ :: _ :: _, [] | _ :: _ :: _, [_] | _ :: _ :: _, _ :: _ :: _ => rfl

theorem chooseConstructor_of_chosen (h : Chosen constructors c) :
    chooseConstructor name constructors = .ok c := by
  cases h with
  | onlyPublic h =>
    unfold chooseConstructor
    rw [isOnly_iff.mp h]
  | onlyDesignated hpublic h => rw [chooseConstructor_of_no_public hpublic, isOnly_iff.mp h]

/-- **A constructor is chosen, or the counts are to blame**: no constructor is designated,
    or there are several. -/
theorem chooseConstructor_cases (name : String) (constructors : List (Constructor σ)) :
    (∃ c, Chosen constructors c) ∨
      (∀ c, ¬ Chosen constructors c) ∧
        ((∀ c ∈ constructors, c.isDesignated = false) ∧
            chooseConstructor name constructors = .error (.noSuitableConstructor name) ∨
          2 ≤ constructors.countP (·.isDesignated) ∧
            chooseConstructor name constructors =
              .error (.multipleDesignated name (constructors.countP (·.isDesignated)))) := by
  by_cases hchosen : ∃ c, Chosen constructors c
  · exact .inl hchosen
  · rw [not_exists] at hchosen
    have hpublic : ∀ c, ¬ IsOnly (·.isPublic) constructors c := by
      intro c hc
      exact hchosen c (.onlyPublic hc)
    refine .inr ⟨hchosen, ?_⟩
    rw [chooseConstructor_of_no_public hpublic, List.countP_eq_length_filter]
    -- What is left of the choice hangs on how many constructors are designated.
    generalize hlist : constructors.filter (·.isDesignated) = designatedOnes
    match designatedOnes with
    | [] =>
      refine .inl ⟨?_, rfl⟩
      intro c hc
      exact Bool.eq_false_iff.mpr (List.filter_eq_nil_iff.mp hlist c hc)
    | [c] => exact absurd (.onlyDesignated hpublic (isOnly_iff.mpr hlist)) (hchosen c)
    | _ :: _ :: _ => exact .inr ⟨by simp, rfl⟩

/-! ## The wiring -/

variable {injection : Injection} {params : List TypeId} {wiring : List Injection}

/-- What a parameter is wired to tells which of the three sorts it is of. -/
theorem injectionFor?_cases (h : injectionFor? r t = some injection) :
    t = .typeToken ∧ injection = .typeToken ∨ t = .rawClass ∧ injection = .rawClass ∨
      r.TakesAnnotation t ∧ injection = .applied t := by
  unfold injectionFor? at h
  split at h
  · next htoken =>
    cases h
    exact .inl ⟨htoken, rfl⟩
  · next htoken =>
    split at h
    · next hclass =>
      cases h
      exact .inr (.inl ⟨hclass, rfl⟩)
    · next hclass =>
      split at h
      · next hann =>
        cases h
        exact .inr (.inr ⟨⟨hann, htoken, hclass⟩, rfl⟩)
      · cases h

theorem exists_injectionFor?_iff : (∃ injection, injectionFor? r t = some injection) ↔
    r.Injectable t := by
  constructor
  · rintro ⟨injection, h⟩
    rcases injectionFor?_cases h with ⟨htoken, -⟩ | ⟨hclass, -⟩ | ⟨htakes, -⟩
    · exact .inl htoken
    · exact .inr (.inl hclass)
    · exact .inr (.inr htakes.1)
  · intro h
    unfold injectionFor?
    by_cases htoken : t = .typeToken
    · exact ⟨_, if_pos htoken⟩
    · by_cases hclass : t = .rawClass
      · exact ⟨_, by rw [if_neg htoken, if_pos hclass]⟩
      · have hann : r.isAnnotation t = true := (h.resolve_left htoken).resolve_left hclass
        exact ⟨_, by rw [if_neg htoken, if_neg hclass, if_pos hann]⟩

/-- The wiring says for each parameter in turn what it receives. -/
def Wires (r : Registry σ) (params : List TypeId) (wiring : List Injection) : Prop :=
  List.Forall₂ (fun t injection => injectionFor? r t = some injection) params wiring

theorem wires_of_wireFrom {index : Nat} (h : wireFrom r name index params = .ok wiring) :
    Wires r params wiring := by
  induction params generalizing index wiring with
  | nil =>
    cases h
    exact .nil
  | cons t rest ih =>
    unfold wireFrom at h
    split at h
    · cases h
    · next injection hinjection =>
      obtain ⟨wiring', hrest, rfl⟩ := exists_of_map_eq_ok h
      exact .cons hinjection (ih hrest)

theorem Wires.injectable (h : Wires r params wiring) : ∀ t ∈ params, r.Injectable t := by
  induction h with
  | nil => exact List.forall_mem_nil _
  | cons hinjection _ ih =>
    exact List.forall_mem_cons.mpr ⟨exists_injectionFor?_iff.mp ⟨_, hinjection⟩, ih⟩

theorem exists_wireFrom_eq_ok (name : String) (index : Nat) (h : ∀ t ∈ params, r.Injectable t) :
    ∃ wiring, wireFrom r name index params = .ok wiring := by
  induction params generalizing index with
  | nil => exact ⟨[], rfl⟩
  | cons t rest ih =>
    obtain ⟨ht, hrest⟩ := List.forall_mem_cons.mp h
    obtain ⟨injection, hinjection⟩ := exists_injectionFor?_iff.mpr ht
    obtain ⟨wiring, hwiring⟩ := ih (index + 1) hrest
    refine ⟨injection :: wiring, ?_⟩
    unfold wireFrom
    simp only [hinjection, hwiring]
    rfl

/-- The first parameter for which there is nothing to inject is reported, by its place. -/
theorem wireFrom_of_unsupported (name : String) (index : Nat) {before : List TypeId}
    (after : List TypeId) (hbefore : ∀ s ∈ before, r.Injectable s) (ht : ¬ r.Injectable t) :
    wireFrom r name index (before ++ t :: after) =
      .error (.unsupportedParameter name (index + before.length) (r.qualifiedName t)) := by
  induction before generalizing index with
  | nil =>
    have hnone : injectionFor? r t = none := by
      rw [Option.eq_none_iff_forall_ne_some]
      intro injection hinjection
      exact ht (exists_injectionFor?_iff.mp ⟨injection, hinjection⟩)
    show wireFrom r name index (t :: after) = _
    unfold wireFrom
    simp only [hnone]
    rfl
  | cons s rest ih =>
    obtain ⟨hs, hrest⟩ := List.forall_mem_cons.mp hbefore
    obtain ⟨injection, hinjection⟩ := exists_injectionFor?_iff.mpr hs
    rw [List.cons_append]
    unfold wireFrom
    simp only [hinjection, ih (index + 1) hrest]
    have hplace : index + 1 + rest.length = index + (s :: rest).length := by
      rw [List.length_cons]
      omega
    rw [hplace]
    rfl

/-! ## The arguments -/

variable {r' : Registry σ} {a : Annotation} {target : GenericType}

/-- What a parameter receives: the target's generic type in full, its raw class, or the
    very annotation that is applied. -/
def argumentFor (a : Annotation) (target : GenericType) (t : TypeId) : Injected :=
  if t = .typeToken then .typeToken target
  else if t = .rawClass then .rawClass target.raw
  else .applied a

/-- One more parameter that is not for an annotation of another type. -/
theorem arguments_cons_of_matching {rest : List Injection}
    (hinjection : injectionFor? r t = some injection) (h : r.TakesAnnotation t → t = a.type) :
    arguments r' name a target (injection :: rest) =
      (argumentFor a target t :: ·) <$> arguments r' name a target rest := by
  rcases injectionFor?_cases hinjection with ⟨rfl, rfl⟩ | ⟨rfl, rfl⟩ | ⟨htakes, rfl⟩
  · rfl
  · rfl
  · have hargument : argumentFor a target t = .applied a := by
      unfold argumentFor
      rw [if_neg htakes.2.1, if_neg htakes.2.2]
    rw [hargument]
    exact if_pos (h htakes)

/-- **The arguments are in line with the parameters** where each parameter for an annotation
    is for one of this type. -/
theorem arguments_of_matching (hwires : Wires r params wiring)
    (h : ∀ t ∈ params, r.TakesAnnotation t → t = a.type) :
    arguments r' name a target wiring = .ok (params.map (argumentFor a target)) := by
  induction hwires with
  | nil => rfl
  | cons hinjection _ ih =>
    obtain ⟨ht, hrest⟩ := List.forall_mem_cons.mp h
    rw [arguments_cons_of_matching hinjection ht, ih hrest]
    rfl

/-- The first parameter for an annotation of another type is reported. -/
theorem arguments_of_mismatch {before after : List TypeId}
    (hwires : Wires r (before ++ t :: after) wiring)
    (hbefore : ∀ s ∈ before, r.TakesAnnotation s → s = a.type)
    (htakes : r.TakesAnnotation t) (hne : t ≠ a.type) :
    arguments r' name a target wiring =
      .error (.annotationMismatch name (r'.qualifiedName t) (r'.qualifiedName a.type)) := by
  induction before generalizing wiring with
  | nil =>
    cases hwires with
    | cons hinjection _ =>
      rcases injectionFor?_cases hinjection with ⟨htoken, -⟩ | ⟨hclass, -⟩ | ⟨-, rfl⟩
      · exact absurd htoken htakes.2.1
      · exact absurd hclass htakes.2.2
      · exact if_neg hne
  | cons s rest ih =>
    obtain ⟨hs, hrest⟩ := List.forall_mem_cons.mp hbefore
    cases hwires with
    | cons hinjection hwires =>
      rw [arguments_cons_of_matching hinjection hs, ih hwires hrest]
      rfl

/-- Unless every parameter matches, there is a first one that does not. -/
theorem exists_first_mismatch (h : ¬ ∀ t ∈ params, r.TakesAnnotation t → t = a.type) :
    ∃ before t after, params = before ++ t :: after ∧
      (∀ s ∈ before, r.TakesAnnotation s → s = a.type) ∧ r.TakesAnnotation t ∧ t ≠ a.type := by
  classical
  push Not at h
  obtain ⟨t, ht, htakes, hne⟩ := h
  have hsome : (params.find? fun s => r.TakesAnnotation s ∧ s ≠ a.type).isSome := by
    rw [List.find?_isSome]
    exact ⟨t, ht, by simpa using ⟨htakes, hne⟩⟩
  obtain ⟨first, hfirst⟩ := Option.isSome_iff_exists.mp hsome
  obtain ⟨hmismatch, before, after, hsplit, hbefore⟩ :=
    List.find?_eq_some_iff_append.mp hfirst
  rw [decide_eq_true_iff] at hmismatch
  refine ⟨before, first, after, hsplit, ?_, hmismatch⟩
  intro s hs hstakes
  simpa [hstakes] using hbefore s hs

/-! ## From the constructors of a class to a run -/

variable {h : TypeId} {code : Handler σ} {i : Instantiator σ}

theorem make_of_chosen (hcode : r.handler? h = some code) (hchosen : Chosen code.constructors c) :
    make r h = (fun wiring => ⟨h, r.qualifiedName h, c, wiring⟩) <$>
      wireFrom r (r.qualifiedName h) 0 c.params := by
  unfold make
  simp only [hcode, chooseConstructor_of_chosen hchosen]
  show wireFrom r (r.qualifiedName h) 0 c.params >>= _ = _
  cases wireFrom r (r.qualifiedName h) 0 c.params <;> rfl

theorem make_of_choice_error {e : GuardError} (hcode : r.handler? h = some code)
    (he : chooseConstructor (r.qualifiedName h) code.constructors = .error e) :
    make r h = .error e := by
  unfold make
  simp only [hcode, he]
  rfl

/-- A class that is wired has a constructor that is chosen, and the wiring goes along its
    parameters. -/
theorem wires_of_make (hcode : r.handler? h = some code) (hmake : make r h = .ok i) :
    Chosen code.constructors i.constructor ∧ i.handlerType = h ∧
      i.handlerName = r.qualifiedName h ∧ Wires r i.constructor.params i.wiring := by
  rcases chooseConstructor_cases (r.qualifiedName h) code.constructors with
    ⟨c, hchosen⟩ | ⟨-, ⟨-, herror⟩ | ⟨-, herror⟩⟩
  · rw [make_of_chosen hcode hchosen] at hmake
    obtain ⟨wiring, hwiring, rfl⟩ := exists_of_map_eq_ok hmake
    exact ⟨hchosen, rfl, rfl, wires_of_wireFrom hwiring⟩
  · rw [make_of_choice_error hcode herror] at hmake
    cases hmake
  · rw [make_of_choice_error hcode herror] at hmake
    cases hmake

theorem exists_make_eq_ok_iff (hcode : r.handler? h = some code)
    (hchosen : Chosen code.constructors c) :
    (∃ i, make r h = .ok i) ↔ ∀ t ∈ c.params, r.Injectable t := by
  rw [make_of_chosen hcode hchosen]
  constructor
  · rintro ⟨i, hmake⟩
    obtain ⟨wiring, hwiring, -⟩ := exists_of_map_eq_ok hmake
    exact (wires_of_wireFrom hwiring).injectable
  · intro hall
    obtain ⟨wiring, hwiring⟩ := exists_wireFrom_eq_ok (r.qualifiedName h) 0 hall
    exact ⟨_, by rw [hwiring]; rfl⟩

/-- Where panics are contained, whatever a constructor comes to is a result. -/
theorem exists_settle_contained (name : String) (built : Except Panic (Except String σ)) :
    ∃ out, settle name true built = .ok out := by
  match built with
  | .ok (.ok _) | .ok (.error _) | .error _ => exact ⟨_, rfl⟩

theorem exists_instantiate_contained (r : Registry σ) (i : Instantiator σ) (a : Annotation)
    (target : GenericType) : ∃ out, (i.instantiate r a target true).1 = .ok out := by
  unfold instantiate
  cases arguments r i.handlerName a target i.wiring with
  | error e => exact ⟨_, rfl⟩
  | ok injected => exact exists_settle_contained _ _

/-- The constructor of a class that has been wired is run on what is meant for its parameters,
    if those for an annotation are for this one. -/
theorem instantiate_of_matching (hcode : r.handler? h = some code) (hmake : make r h = .ok i)
    (r' : Registry σ) (target : GenericType) (contain : Bool)
    (hmatching : ∀ t ∈ i.constructor.params, r.TakesAnnotation t → t = a.type) :
    i.instantiate r' a target contain =
      (settle (r.qualifiedName h) contain
          (i.constructor.build (i.constructor.params.map (argumentFor a target))),
        [.built i.constructor.label (i.constructor.params.map (argumentFor a target))]) := by
  obtain ⟨-, -, hname, hwires⟩ := wires_of_make hcode hmake
  unfold instantiate
  rw [arguments_of_matching hwires hmatching, hname]
  rfl

/-- It is not run if there is a parameter for another annotation. -/
theorem instantiate_of_mismatch (hcode : r.handler? h = some code) (hmake : make r h = .ok i)
    (r' : Registry σ) (target : GenericType) (contain : Bool) {before after : List TypeId}
    (hparams : i.constructor.params = before ++ t :: after)
    (hbefore : ∀ s ∈ before, r.TakesAnnotation s → s = a.type) (htakes : r.TakesAnnotation t)
    (hne : t ≠ a.type) :
    i.instantiate r' a target contain =
      (.ok (.error (.annotationMismatch (r.qualifiedName h) (r'.qualifiedName t)
        (r'.qualifiedName a.type))), []) := by
  obtain ⟨-, -, hname, hwires⟩ := wires_of_make hcode hmake
  rw [hparams] at hwires
  unfold instantiate
  rw [arguments_of_mismatch hwires hbefore htakes hne, hname]

/-- **The choice of a constructor, and what is injected**, for any handler class that has
    code.

    1. The constructor to use is the only public one or, unless there is exactly one of
       these, the only designated one. The class is wired exactly if each of its parameters
       is for the target's generic type, its raw class, or an annotation. Otherwise the
       first parameter that is for something else is reported with its place.
    2. If there is no constructor to use, then none is designated or several are, and this
       is reported, in the second case with their number.
    3. The constructor of a wired class is run once or not at all. It is run if each of its
       parameters for an annotation is for one of the type of the annotation that is
       applied. Then each parameter receives what is meant for it, and the outcome is what
       comes of the run. If there is a parameter for another annotation, the first one is
       reported and nothing is run. Where panics are contained, none comes through.
    4. In a registry that has come about by changes, the parameters for an annotation are
       those of annotation types. -/
theorem choice_and_injection (hcode : r.handler? h = some code) :
    (∀ c, Chosen code.constructors c →
      ((∃ i, make r h = .ok i) ↔ ∀ t ∈ c.params, r.Injectable t) ∧
      (∀ i, make r h = .ok i → i.handlerType = h ∧ i.constructor = c) ∧
      ∀ before t after, c.params = before ++ t :: after → (∀ s ∈ before, r.Injectable s) →
        ¬ r.Injectable t →
        make r h = .error
          (.unsupportedParameter (r.qualifiedName h) before.length (r.qualifiedName t))) ∧
    ((∀ c, ¬ Chosen code.constructors c) →
      (∀ c ∈ code.constructors, c.isDesignated = false) ∧
          make r h = .error (.noSuitableConstructor (r.qualifiedName h)) ∨
        2 ≤ code.constructors.countP (·.isDesignated) ∧
          make r h = .error (.multipleDesignated (r.qualifiedName h)
            (code.constructors.countP (·.isDesignated)))) ∧
    (∀ i, make r h = .ok i → ∀ (r' : Registry σ) a target contain,
      ((∀ t ∈ i.constructor.params, r.TakesAnnotation t → t = a.type) →
        i.instantiate r' a target contain =
          (settle (r.qualifiedName h) contain
              (i.constructor.build (i.constructor.params.map (argumentFor a target))),
            [.built i.constructor.label (i.constructor.params.map (argumentFor a target))])) ∧
      (¬ (∀ t ∈ i.constructor.params, r.TakesAnnotation t → t = a.type) →
        ∃ before t after, i.constructor.params = before ++ t :: after ∧
          (∀ s ∈ before, r.TakesAnnotation s → s = a.type) ∧ r.TakesAnnotation t ∧ t ≠ a.type ∧
          i.instantiate r' a target contain =
            (.ok (.error (.annotationMismatch (r.qualifiedName h) (r'.qualifiedName t)
              (r'.qualifiedName a.type))), [])) ∧
      (contain = true → ∃ out, (i.instantiate r' a target contain).1 = .ok out)) ∧
    (r.Reached → ∀ t, r.TakesAnnotation t ↔ r.isAnnotation t = true) := by
  refine ⟨?_, ?_, ?_, fun hreached t => hreached.takesAnnotation_iff t⟩
  · intro c hchosen
    refine ⟨exists_make_eq_ok_iff hcode hchosen, ?_, ?_⟩
    · intro i hmake
      rw [make_of_chosen hcode hchosen] at hmake
      obtain ⟨wiring, -, rfl⟩ := exists_of_map_eq_ok hmake
      exact ⟨rfl, rfl⟩
    · intro before t after hparams hbefore ht
      have hwiring := wireFrom_of_unsupported (r.qualifiedName h) 0 after hbefore ht
      rw [make_of_chosen hcode hchosen, hparams, hwiring, Nat.zero_add]
      rfl
  · intro hnone
    rcases chooseConstructor_cases (r.qualifiedName h) code.constructors with
      ⟨c, hchosen⟩ | ⟨-, ⟨hundesignated, herror⟩ | ⟨hseveral, herror⟩⟩
    · exact absurd hchosen (hnone c)
    · exact .inl ⟨hundesignated, make_of_choice_error hcode herror⟩
    · exact .inr ⟨hseveral, make_of_choice_error hcode herror⟩
  · intro i hmake r' a target contain
    refine ⟨instantiate_of_matching hcode hmake r' target contain, ?_, ?_⟩
    · intro hmismatch
      obtain ⟨before, t, after, hparams, hbefore, htakes, hne⟩ := exists_first_mismatch hmismatch
      exact ⟨before, t, after, hparams, hbefore, htakes, hne,
        instantiate_of_mismatch hcode hmake r' target contain hparams hbefore htakes hne⟩
    · rintro rfl
      exact exists_instantiate_contained r' i a target

end Instantiator

/-! ## Two public constructors, and a private one that is designated -/

namespace Sample.Injected

def min : TypeId := ⟨34⟩
def handlerClass : TypeId := ⟨35⟩

/-- It asks for all that can be injected, and panics. -/
def wired : Constructor Unit where
  label := .named "wired"
  params := [.typeToken, min, .rawClass]
  isPublic := false
  isDesignated := true
  build := fun _ => .error (.text "boom")

def plain (label : String) : Constructor Unit where
  label := .named label
  params := [.string]
  isPublic := true
  isDesignated := false
  build := fun _ => .ok (.ok ())

def code : Handler Unit where
  constructors := [plain "first", wired, plain "second"]

def registry : Registry Unit := Registry.initial.after [
  .declareAnnotationType "demo" "Min" { metas := [{ type := .guardMarker }] },
  .declareClass "demo" "MinHandler" {},
  .setHandler handlerClass code]

/-- The target is a list of integers. -/
def numbers : GenericType := .mk .list [.ofRaw .intBox]

end Sample.Injected

namespace Instantiator

open Sample.Injected

/-- Of two public constructors none is taken. The designated one is run on the annotation
    that it asks for, and its panic is contained. It is not run on another one. -/
theorem choice_and_injection_sample :
    registry.handler? handlerClass = some code ∧ registry.Reached ∧
    ∃ i, make registry handlerClass = .ok i ∧ i.constructor = wired ∧
      i.instantiate registry { type := min } numbers true =
        (.ok (.error (.construction "demo.MinHandler" "panicked: boom")),
          [.built (.named "wired")
            [.typeToken numbers, .applied { type := min }, .rawClass .list]]) ∧
      i.instantiate registry { type := .sensitive } numbers true =
        (.ok (.error (.annotationMismatch "demo.MinHandler" "demo.Min" "guard.Sensitive")),
          []) := by
  have hcode : registry.handler? handlerClass = some code := rfl
  have hreached : registry.Reached := ⟨_, rfl⟩
  obtain ⟨hchoice, -, hruns, htakes⟩ := choice_and_injection hcode
  have hchosen : Chosen code.constructors wired := by
    refine .onlyDesignated ?_ ⟨[plain "first"], [plain "second"], rfl, rfl, by simp [plain]⟩
    intro other hother
    cases isOnly_iff.mp hother
  obtain ⟨hwired, hconstructor, -⟩ := hchoice wired hchosen
  have hparams : ∀ t ∈ wired.params, t = .typeToken ∨ t = min ∨ t = .rawClass := by
    simp [wired]
  have hinjectable : ∀ t ∈ wired.params, registry.Injectable t := by
    intro t ht
    rcases hparams t ht with rfl | rfl | rfl
    · exact .inl rfl
    · exact .inr (.inr rfl)
    · exact .inr (.inl rfl)
  obtain ⟨i, hmake⟩ := hwired.mpr hinjectable
  obtain ⟨-, hi⟩ := hconstructor i hmake
  refine ⟨hcode, hreached, i, hmake, hi, ?_, ?_⟩
  · obtain ⟨hrun, -, -⟩ := hruns i hmake registry { type := min } numbers true
    rw [hi] at hrun
    refine hrun ?_
    intro t ht hann
    rw [htakes hreached] at hann
    rcases hparams t ht with rfl | rfl | rfl
    · cases hann
    · rfl
    · cases hann
  · have hmin : registry.TakesAnnotation min := (htakes hreached min).mpr rfl
    obtain ⟨-, hmismatch, -⟩ := hruns i hmake registry { type := .sensitive } numbers true
    rw [hi] at hmismatch
    have hsome : ¬ ∀ t ∈ wired.params, registry.TakesAnnotation t → t = .sensitive := by
      intro hall
      exact absurd (hall min (by simp [wired]) hmin) (by decide)
    obtain ⟨before, t, after, hsplit, hbefore, ht, -, hout⟩ := hmismatch hsome
    have hfirst : t = min := by
      have hmem : t ∈ wired.params := by
        rw [hsplit]
        simp
      rcases hparams t hmem with rfl | rfl | rfl
      · exact absurd rfl ht.2.1
      · rfl
      · exact absurd rfl ht.2.2
    rw [hout, hfirst]
    rfl

end Instantiator

end AnnotationGuards
