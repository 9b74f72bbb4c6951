import AnnotationGuards.Chain.Linking
import AnnotationGuards.Proofs.Guard.Definition

/-! # Links without tables

    A link looks up definitions and wired handler classes in tables that earlier
    links have filled. A `Contribution` is what a part of a link comes to apart
    from these tables: its answer, the handler code it runs, and the instances
    it adds to the chain.

    * `Link.contribute`: what one annotation contributes, from the registry alone.
    * `Link.outcome`: what the link of a slot comes to.
    * `Contribution.forM_eq_ok`, `Contribution.forM_eq_error`: how contributions one
      after the other end.
    * `Link.contributeAll_eq_filter`: which annotations contribute.
    * `Link.contributeOwn_cases`: how the part of a guard itself ends.
    * `Link.onlyBuilds_contributeAll`: a link runs constructors and no tests. -/

namespace AnnotationGuards

variable {σ : Type}

/-- What a part of a link comes to, apart from the tables. -/
structure Contribution (σ α : Type) where
  result : Except LinkFault α
  /-- The handler code that it runs. -/
  calls : List Call := []
  /-- The instances that it adds to the chain. -/
  instances : List (GuardInstance σ) := []

namespace Contribution

variable {ι α β : Type}

/-- One part after the other; nothing comes after a fault. -/
def bind (k : Contribution σ α) (next : α → Contribution σ β) : Contribution σ β :=
  match k.result with
  | .error e => { k with result := .error e }
  | .ok a =>
    { result := (next a).result
      calls := k.calls ++ (next a).calls
      instances := k.instances ++ (next a).instances }

instance : Monad (Contribution σ) where
  pure a := { result := .ok a }
  bind := Contribution.bind

/-- A part that ends with a fault. -/
def fault (e : LinkFault) : Contribution σ α := { result := .error e }

theorem bind_of_error {k : Contribution σ α} {e : LinkFault} (h : k.result = .error e)
    (next : α → Contribution σ β) : k >>= next = { k with result := .error e } := by
  show k.bind next = _
  unfold Contribution.bind
  rw [h]

theorem bind_of_ok {k : Contribution σ α} {a : α} (h : k.result = .ok a)
    (next : α → Contribution σ β) : k >>= next =
      { result := (next a).result
        calls := k.calls ++ (next a).calls
        instances := k.instances ++ (next a).instances } := by
  show k.bind next = _
  unfold Contribution.bind
  rw [h]

/-! ## One part after the other -/

theorem bind_eq_ok {k : Contribution σ α} {next : α → Contribution σ β} {b : β}
    (h : (k >>= next).result = .ok b) :
    ∃ x, k.result = .ok x ∧ (next x).result = .ok b ∧
      (k >>= next).instances = k.instances ++ (next x).instances := by
  cases hk : k.result with
  | error e =>
    rw [bind_of_error hk] at h
    cases h
  | ok x =>
    rw [bind_of_ok hk] at h ⊢
    exact ⟨x, rfl, h, rfl⟩

theorem bind_eq_error {k : Contribution σ α} {next : α → Contribution σ β} {e : LinkFault}
    (h : (k >>= next).result = .error e) :
    k.result = .error e ∨ ∃ x, k.result = .ok x ∧ (next x).result = .error e := by
  cases hk : k.result with
  | error e' =>
    rw [bind_of_error hk] at h
    cases h
    exact Or.inl rfl
  | ok x =>
    rw [bind_of_ok hk] at h
    exact Or.inr ⟨x, rfl, h⟩

theorem forM_eq_ok {step : ι → Contribution σ Unit} {items : List ι}
    (h : (items.forM step).result = .ok ()) {i : ι} (hi : i ∈ items) :
    (step i).result = .ok () ∧ (step i).instances ⊆ (items.forM step).instances := by
  induction items with
  | nil => cases hi
  | cons first rest ih =>
    have hbind : (step first >>= fun _ => rest.forM step).result = .ok () := h
    obtain ⟨_, hfirst, hrest, hinstances⟩ := bind_eq_ok hbind
    have happend : ((first :: rest).forM step).instances =
      (step first).instances ++ (rest.forM step).instances := hinstances
    rw [happend]
    rcases List.mem_cons.mp hi with rfl | hi
    · exact ⟨hfirst, List.subset_append_left _ _⟩
    · obtain ⟨hresult, hsub⟩ := ih hrest hi
      exact ⟨hresult, fun g hg => List.mem_append_right _ (hsub hg)⟩

theorem forM_eq_error {step : ι → Contribution σ Unit} {items : List ι} {e : LinkFault}
    (h : (items.forM step).result = .error e) : ∃ i ∈ items, (step i).result = .error e := by
  induction items with
  | nil => cases h
  | cons first rest ih =>
    have hbind : (step first >>= fun _ => rest.forM step).result = .error e := h
    rcases bind_eq_error hbind with hfirst | ⟨_, -, hrest⟩
    · exact ⟨first, List.mem_cons_self .., hfirst⟩
    · obtain ⟨i, hi, hresult⟩ := ih hrest
      exact ⟨i, List.mem_cons_of_mem _ hi, hresult⟩

theorem forM_eq_pure {step : ι → Contribution σ Unit} {items : List ι}
    (h : ∀ i ∈ items, step i = pure ()) : items.forM step = pure () := by
  induction items with
  | nil => rfl
  | cons first rest ih =>
    have hfirst := h first (List.mem_cons_self ..)
    have hrest := ih fun i hi => h i (List.mem_cons_of_mem _ hi)
    show (step first >>= fun _ => rest.forM step) = _
    rw [hfirst, hrest]
    rfl

/-- Steps that do nothing can be left out. -/
theorem forM_filter {step : ι → Contribution σ Unit} {keep : ι → Bool}
    (h : ∀ i, keep i = false → step i = pure ()) (items : List ι) :
    (items.filter keep).forM step = items.forM step := by
  induction items with
  | nil => rfl
  | cons first rest ih =>
    show _ = (step first >>= fun _ => rest.forM step)
    cases hfirst : keep first with
    | false =>
      rw [List.filter_cons, hfirst, h first hfirst]
      exact ih
    | true =>
      rw [List.filter_cons, hfirst, ← ih]
      rfl

/-! ## Parts of a contribution -/

/-- An answer, or the error in its place. -/
def ofResult : Except GuardError α → Contribution σ α
  | .ok a => pure a
  | .error e => fault (.misconfigured e)

@[simp] theorem ofResult_ok_bind (a : α) (next : α → Contribution σ β) :
    ofResult (.ok a) >>= next = next a := rfl

/-- A text, if it has an end. -/
def ofText : Option String → Contribution σ String
  | some text => pure text
  | none => fault (.aborted .endlessText)

/-- What a constructor's run comes to, with its record. -/
def ofRun : Except Panic (Except GuardError α) × List Call → Contribution σ α
  | (.ok (.ok a), calls) => { result := .ok a, calls }
  | (.ok (.error e), calls) => { result := .error (.misconfigured e), calls }
  | (.error payload, calls) => { result := .error (.aborted (.panicked payload)), calls }

/-- One instance of the chain. -/
def ofInstance (g : GuardInstance σ) : Contribution σ Unit :=
  { result := .ok (), instances := [g] }

end Contribution

namespace Link

/-- What a guard that carries the marker contributes itself. -/
def contributeInstance (c : LinkContext σ) (target : Target) (path : List String) (a : Annotation)
    (d : GuardDefinition) (marking : Marking) : Contribution σ Unit := do
  let test ← Contribution.ofResult
    (MatchedTest.find c.registry d.name marking.testsNull marking.handler target.type)
  let instantiator ← Contribution.ofResult (Instantiator.make c.registry marking.handler)
  let handler ← Contribution.ofRun
    (instantiator.instantiate c.registry a target.type c.config.containPanics)
  let message ← Contribution.ofText (message? c.registry marking a)
  Contribution.ofInstance (instanceOf c target path a marking test handler message)

/-- What a guard contributes itself: nothing without a marker. -/
def contributeOwn (c : LinkContext σ) (target : Target) (path : List String) (a : Annotation)
    (d : GuardDefinition) : Contribution σ Unit :=
  match d.marking with
  | some marking => contributeInstance c target path a d marking
  | none => pure ()

/-- What an annotation contributes: its own check, and then the guards that its
    type is composed of, depth first. -/
def contribute (c : LinkContext σ) (target : Target) :
    Nat → List String → Annotation → Contribution σ Unit
  | 0, _, _ => Contribution.fault (.aborted .endlessNesting)
  | depth + 1, path, a => do
    match ← Contribution.ofResult (c.registry.definition c.config a.type) with
    | none => pure ()
    | some d =>
      let path := path ++ ["@" ++ c.registry.simpleName a.type]
      contributeOwn c target path a d
      d.implied.forM (contribute c target depth path)

/-- What all annotations of a slot contribute, in order. -/
def contributeAll (c : LinkContext σ) (guards : SlotGuards) : Contribution σ Unit :=
  guards.annotations.forM (contribute c guards.target (c.registry.size + 1) [])

/-- What the link of a slot comes to. -/
def outcome (c : LinkContext σ) (guards : SlotGuards) : Except Abort (SlotState σ) :=
  settle c (contributeAll c guards).instances (contributeAll c guards).result

/-! ## What one annotation contributes -/

variable {c : LinkContext σ} {target : Target} {depth : Nat} {path : List String} {a : Annotation}

theorem contribute_of_not_guard (h : classify c.registry a.type = .ok false) :
    contribute c target (depth + 1) path a = pure () := by
  unfold contribute
  rw [Registry.definition_eq_none_iff.mpr h]
  rfl

theorem contribute_of_definition {d : GuardDefinition}
    (h : c.registry.definition c.config a.type = .ok (some d)) :
    contribute c target (depth + 1) path a =
      (contributeOwn c target (path ++ ["@" ++ c.registry.simpleName a.type]) a d >>= fun _ =>
        d.implied.forM
          (contribute c target depth (path ++ ["@" ++ c.registry.simpleName a.type]))) := by
  unfold contribute
  rw [h]
  rfl

theorem contribute_of_faulty {e : GuardError}
    (h : c.registry.definition c.config a.type = .error e) :
    contribute c target (depth + 1) path a = Contribution.fault (.misconfigured e) := by
  unfold contribute
  rw [h]
  rfl

theorem contribute_of_circular {e : Circularity} (h : classify c.registry a.type = .error e) :
    ∃ e', (contribute c target (depth + 1) path a).result = .error (.misconfigured e') :=
  ⟨_, congrArg Contribution.result (contribute_of_faulty (Registry.definition_of_error h))⟩

/-- Only annotations that call for a guard contribute to a chain. -/
theorem contributeAll_eq_filter (c : LinkContext σ) (guards : SlotGuards) :
    contributeAll c guards =
      (guards.annotations.filter c.registry.isGuardLike).forM
        (contribute c guards.target (c.registry.size + 1) []) := by
  refine (Contribution.forM_filter ?_ guards.annotations).symm
  intro a hnot
  exact contribute_of_not_guard (Registry.isGuardLike_eq_false_iff.mp hnot)

/-- A link of annotations that call for no guard comes to an empty chain. -/
theorem outcome_of_filter_eq_nil {guards : SlotGuards}
    (h : guards.annotations.filter c.registry.isGuardLike = []) :
    contributeAll c guards = pure () ∧ outcome c guards = .ok (.linked []) := by
  have hpure : contributeAll c guards = pure () := by
    rw [contributeAll_eq_filter, h]
    rfl
  refine ⟨hpure, ?_⟩
  unfold outcome
  rw [hpure]
  rfl

/-! ## How a guard's own part can end -/

/-- Contained constructors do not panic. -/
theorem not_contained_of_panic {name : String} {contain : Bool}
    {built : Except Panic (Except String σ)} {payload : Panic}
    (h : Instantiator.settle name contain built = .error payload) : contain = false := by
  rcases built with payload' | (reason | state)
  · cases contain with
    | false => rfl
    | true => cases h
  · cases h
  · cases h

theorem instantiate_eq_panic {r : Registry σ} {i : Instantiator σ} {a : Annotation}
    {target : GenericType} {contain : Bool} {payload : Panic} {calls : List Call}
    (h : i.instantiate r a target contain = (.error payload, calls)) : contain = false := by
  unfold Instantiator.instantiate at h
  cases hargs : Instantiator.arguments r i.handlerName a target i.wiring with
  | error e =>
    rw [hargs] at h
    cases h
  | ok injected =>
    rw [hargs] at h
    exact not_contained_of_panic (congrArg Prod.fst h)

/-- **How a marked guard's own part ends**: with one instance, with a fault of the
    guard, with a panic that is not contained, or with a message without end. -/
theorem contributeInstance_cases (c : LinkContext σ) (target : Target) (path : List String)
    (a : Annotation) (d : GuardDefinition) (marking : Marking) :
    ((contributeInstance c target path a d marking).result = .ok () ∧
      (contributeInstance c target path a d marking).instances.length = 1) ∨
    (∃ e, (contributeInstance c target path a d marking).result = .error (.misconfigured e)) ∨
    (∃ payload, (contributeInstance c target path a d marking).result =
      .error (.aborted (.panicked payload)) ∧ c.config.containPanics = false) ∨
    ((contributeInstance c target path a d marking).result = .error (.aborted .endlessText) ∧
      message? c.registry marking a = none) := by
  -- In the order in which a link asks: the test, the wiring, the constructor, the message.
  unfold contributeInstance
  cases MatchedTest.find c.registry d.name marking.testsNull marking.handler target.type with
  | error e => exact Or.inr (Or.inl ⟨e, rfl⟩)
  | ok test =>
    cases Instantiator.make c.registry marking.handler with
    | error e => exact Or.inr (Or.inl ⟨e, rfl⟩)
    | ok instantiator =>
      simp only [Contribution.ofResult_ok_bind]
      rcases hrun : instantiator.instantiate c.registry a target.type c.config.containPanics with
        ⟨payload | (e | state), calls⟩
      · exact Or.inr (Or.inr (Or.inl ⟨payload, rfl, instantiate_eq_panic hrun⟩))
      · exact Or.inr (Or.inl ⟨e, rfl⟩)
      · cases hmessage : message? c.registry marking a with
        | none => exact Or.inr (Or.inr (Or.inr ⟨rfl, rfl⟩))
        | some message => exact Or.inl ⟨rfl, rfl⟩

/-- The same for any guard. One that carries the marker does not go through without
    an instance. -/
theorem contributeOwn_cases (c : LinkContext σ) (target : Target) (path : List String)
    (a : Annotation) (d : GuardDefinition) :
    ((contributeOwn c target path a d).result = .ok () ∧
      (d.marking.isSome = true → (contributeOwn c target path a d).instances ≠ [])) ∨
    (∃ e, (contributeOwn c target path a d).result = .error (.misconfigured e)) ∨
    (∃ payload, (contributeOwn c target path a d).result = .error (.aborted (.panicked payload)) ∧
      c.config.containPanics = false) ∨
    ((contributeOwn c target path a d).result = .error (.aborted .endlessText) ∧
      ∃ marking, d.marking = some marking ∧ message? c.registry marking a = none) := by
  unfold contributeOwn
  cases d.marking with
  | none => exact Or.inl ⟨rfl, fun h => by cases h⟩
  | some marking =>
    rcases contributeInstance_cases c target path a d marking with
      ⟨hok, hone⟩ | herror | hpanic | ⟨htext, hmessage⟩
    · refine Or.inl ⟨hok, fun _ hnil => ?_⟩
      simp only [hnil, List.length_nil] at hone
      omega
    · exact Or.inr (Or.inl herror)
    · exact Or.inr (Or.inr (Or.inl hpanic))
    · exact Or.inr (Or.inr (Or.inr ⟨htext, marking, rfl, hmessage⟩))

end Link

/-! ## The handler code that a link runs -/

/-- Whether the code that ran is a test. -/
def Call.isTest : Call → Bool
  | .built .. => false
  | .tested .. => true

/-- Of all handler code, the part of a link runs constructors only. -/
def Contribution.OnlyBuilds {α : Type} (k : Contribution σ α) : Prop :=
  ∀ call ∈ k.calls, call.isTest = false

namespace Contribution

variable {ι α β : Type}

theorem onlyBuilds_pure (a : α) : OnlyBuilds (pure a : Contribution σ α) := by
  intro call h
  cases h

theorem onlyBuilds_fault (e : LinkFault) : OnlyBuilds (fault e : Contribution σ α) := by
  intro call h
  cases h

theorem OnlyBuilds.bind {k : Contribution σ α} {next : α → Contribution σ β} (hk : k.OnlyBuilds)
    (hnext : ∀ a, (next a).OnlyBuilds) : (k >>= next).OnlyBuilds := by
  intro call hcall
  cases hresult : k.result with
  | error e =>
    rw [bind_of_error hresult] at hcall
    exact hk call hcall
  | ok a =>
    rw [bind_of_ok hresult] at hcall
    exact (List.mem_append.mp hcall).elim (hk call) (hnext a call)

theorem onlyBuilds_forM {step : ι → Contribution σ Unit} (h : ∀ i, (step i).OnlyBuilds)
    (items : List ι) : (items.forM step).OnlyBuilds := by
  induction items with
  | nil => exact onlyBuilds_pure ()
  | cons i rest ih => exact (h i).bind fun _ => ih

theorem onlyBuilds_ofResult (result : Except GuardError α) :
    (ofResult result : Contribution σ α).OnlyBuilds := by
  cases result with
  | ok a => exact onlyBuilds_pure a
  | error e => exact onlyBuilds_fault _

theorem onlyBuilds_ofText (text : Option String) :
    (ofText text : Contribution σ String).OnlyBuilds := by
  cases text with
  | some text => exact onlyBuilds_pure text
  | none => exact onlyBuilds_fault _

theorem onlyBuilds_ofInstance (g : GuardInstance σ) : (ofInstance g).OnlyBuilds := by
  intro call h
  cases h

theorem onlyBuilds_ofRun {run : Except Panic (Except GuardError α) × List Call}
    (h : ∀ call ∈ run.2, call.isTest = false) : (ofRun run : Contribution σ α).OnlyBuilds := by
  rcases run with ⟨payload | (e | a), calls⟩
  all_goals exact h

end Contribution

namespace Link

theorem onlyBuilds_instantiate (r : Registry σ) (i : Instantiator σ) (a : Annotation)
    (target : GenericType) (contain : Bool) :
    ∀ call ∈ (i.instantiate r a target contain).2, call.isTest = false := by
  unfold Instantiator.instantiate
  cases Instantiator.arguments r i.handlerName a target i.wiring with
  | error e => simp
  | ok injected => simp [Constructor.run, Call.isTest]

theorem onlyBuilds_contributeOwn (c : LinkContext σ) (target : Target) (path : List String)
    (a : Annotation) (d : GuardDefinition) : (contributeOwn c target path a d).OnlyBuilds := by
  unfold contributeOwn
  cases d.marking with
  | none => exact Contribution.onlyBuilds_pure ()
  | some marking =>
    refine (Contribution.onlyBuilds_ofResult _).bind fun test => ?_
    refine (Contribution.onlyBuilds_ofResult _).bind fun instantiator => ?_
    refine (Contribution.onlyBuilds_ofRun (onlyBuilds_instantiate _ _ _ _ _)).bind fun handler => ?_
    refine (Contribution.onlyBuilds_ofText _).bind fun message => ?_
    exact Contribution.onlyBuilds_ofInstance _

theorem onlyBuilds_contribute (c : LinkContext σ) (target : Target) (depth : Nat)
    (path : List String) (a : Annotation) : (contribute c target depth path a).OnlyBuilds := by
  induction depth generalizing path a with
  | zero => exact Contribution.onlyBuilds_fault _
  | succ depth ih =>
    refine (Contribution.onlyBuilds_ofResult _).bind fun found => ?_
    cases found with
    | none => exact Contribution.onlyBuilds_pure ()
    | some d =>
      exact (onlyBuilds_contributeOwn _ _ _ _ d).bind fun _ =>
        Contribution.onlyBuilds_forM (ih _) d.implied

theorem onlyBuilds_contributeAll (c : LinkContext σ) (guards : SlotGuards) :
    (contributeAll c guards).OnlyBuilds :=
  Contribution.onlyBuilds_forM (onlyBuilds_contribute c guards.target _ []) guards.annotations

end Link

end AnnotationGuards
