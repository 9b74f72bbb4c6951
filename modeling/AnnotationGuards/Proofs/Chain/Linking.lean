import AnnotationGuards.Proofs.Chain.Contribution

/-! # Links and what they contribute

    The tables of a link hold what the registry gives. So each part of a link comes
    to its contribution, whatever earlier links have filled the tables with.

    * `LinkM.Performs`: a part of a link comes to a contribution, with any tables
      that agree with the registry.
    * `LinkM.run_bind_cases`, `LinkM.run_forM_eq_error`: runs taken apart.
    * `Link.performs_expand` and `Link.linkSlot_eq`: links contribute just that.
    * `Link.settle_eq_ok`, `Link.settle_eq_error`: how links can end. -/

namespace AnnotationGuards

variable {σ : Type}

/-- The tables of a link hold what the registry gives. -/
structure LinkProgress.Coherent (c : LinkContext σ) (p : LinkProgress σ) : Prop where
  definitions : p.definitions.Coherent c.registry c.config
  instantiators : Entries.Agrees p.instantiators (Instantiator.make c.registry)

/-- Before anything has been worked out, the tables agree with any registry. -/
theorem LinkProgress.coherent_empty (c : LinkContext σ) :
    LinkProgress.Coherent c { definitions := {}, instantiators := [] } :=
  ⟨DefinitionTable.coherent_empty c.registry c.config, Entries.agrees_nil _⟩

namespace LinkM

variable {c : LinkContext σ} {α β : Type}

/-- From any tables that agree with the registry, the part `m` of a link comes to
    the contribution `k`, and leaves tables that agree with the registry. -/
def Performs (c : LinkContext σ) (m : LinkM σ α) (k : Contribution σ α) : Prop :=
  ∀ p : LinkProgress σ, p.Coherent c → ∃ p', m.run p = (k.result, p') ∧ p'.Coherent c ∧
    p'.calls = p.calls ++ k.calls ∧ p'.instances = p.instances ++ k.instances

theorem performs_pure (a : α) : Performs c (pure a) (pure a) := by
  intro p hp
  exact ⟨p, rfl, hp, (List.append_nil _).symm, (List.append_nil _).symm⟩

theorem performs_throw (e : LinkFault) :
    Performs c (throw e : LinkM σ α) (Contribution.fault e) := by
  intro p hp
  exact ⟨p, rfl, hp, (List.append_nil _).symm, (List.append_nil _).symm⟩

theorem run_bind_of_error {m : LinkM σ α} {p p' : LinkProgress σ} {e : LinkFault}
    (h : m.run p = (.error e, p')) (next : α → LinkM σ β) :
    (m >>= next).run p = (.error e, p') := by
  show (m.run >>= ExceptT.bindCont next) p = _
  show (let s := m.run p; ExceptT.bindCont next s.1 s.2) = _
  rw [h]
  rfl

theorem run_bind_of_ok {m : LinkM σ α} {p p' : LinkProgress σ} {a : α}
    (h : m.run p = (.ok a, p')) (next : α → LinkM σ β) :
    (m >>= next).run p = (next a).run p' := by
  show (let s := m.run p; ExceptT.bindCont next s.1 s.2) = _
  rw [h]
  rfl

/-- Parts that perform their contributions do so one after the other. -/
theorem Performs.bind {m : LinkM σ α} {k : Contribution σ α} {next : α → LinkM σ β}
    {nextK : α → Contribution σ β} (hm : Performs c m k)
    (hnext : ∀ a, k.result = .ok a → Performs c (next a) (nextK a)) :
    Performs c (m >>= next) (k >>= nextK) := by
  intro p hp
  obtain ⟨p', hrun, hp', hcalls, hinstances⟩ := hm p hp
  cases hk : k.result with
  | error e =>
    rw [hk] at hrun
    rw [Contribution.bind_of_error hk]
    exact ⟨p', run_bind_of_error hrun next, hp', hcalls, hinstances⟩
  | ok a =>
    rw [hk] at hrun
    obtain ⟨p'', hrun', hp'', hcalls', hinstances'⟩ := hnext a hk p' hp'
    rw [Contribution.bind_of_ok hk]
    refine ⟨p'', ?_, hp'', ?_, ?_⟩
    · rw [run_bind_of_ok hrun, hrun']
    · rw [hcalls', hcalls, List.append_assoc]
    · rw [hinstances', hinstances, List.append_assoc]

theorem performs_forM {ι : Type} {step : ι → LinkM σ Unit} {stepK : ι → Contribution σ Unit}
    (h : ∀ i, Performs c (step i) (stepK i)) (items : List ι) :
    Performs c (items.forM step) (items.forM stepK) := by
  induction items with
  | nil => exact performs_pure ()
  | cons i rest ih => exact (h i).bind fun _ _ => ih

theorem performs_ofResult (result : Except GuardError α) :
    Performs c (ofResult result) (Contribution.ofResult result) := by
  cases result with
  | ok a => exact performs_pure a
  | error e => exact performs_throw _

theorem performs_ofText (text : Option String) :
    Performs c (ofText text) (Contribution.ofText text) := by
  cases text with
  | some text => exact performs_pure text
  | none => exact performs_throw _

theorem performs_push (g : GuardInstance σ) :
    Performs c (push g) (Contribution.ofInstance g) := by
  intro p hp
  exact ⟨{ p with instances := p.instances ++ [g] }, rfl, ⟨hp.definitions, hp.instantiators⟩,
    (List.append_nil _).symm, rfl⟩

theorem performs_definitionOf (t : TypeId) :
    Performs c (definitionOf c t) (Contribution.ofResult (c.registry.definition c.config t)) := by
  intro p hp
  obtain ⟨definitions, heq, hd⟩ := DefinitionTable.definitionFor_eq hp.definitions t
  have hcoherent : LinkProgress.Coherent c { p with definitions } := ⟨hd, hp.instantiators⟩
  have hrun : (definitionOf c t).run p =
      (ofResult (c.registry.definition c.config t)).run { p with definitions } := by
    show (let s := p.definitions.definitionFor c.registry c.config t;
      (ofResult s.1 : LinkM σ _).run { p with definitions := s.2 }) = _
    rw [heq]
  rw [hrun]
  exact performs_ofResult _ _ hcoherent

theorem performs_instantiatorOf (h : TypeId) :
    Performs c (instantiatorOf c h) (Contribution.ofResult (Instantiator.make c.registry h)) := by
  intro p hp
  have hget : ∃ table, InstantiatorTable.get c.registry p.instantiators h =
      (Instantiator.make c.registry h, table) ∧
      Entries.Agrees table (Instantiator.make c.registry) := by
    unfold InstantiatorTable.get
    cases hfound : Entries.get? p.instantiators h with
    | some result =>
      exact ⟨p.instantiators, by rw [hp.instantiators h result hfound], hp.instantiators⟩
    | none => exact ⟨_, rfl, hp.instantiators.put h⟩
  obtain ⟨instantiators, heq, hi⟩ := hget
  have hcoherent : LinkProgress.Coherent c { p with instantiators } := ⟨hp.definitions, hi⟩
  have hrun : (instantiatorOf c h).run p =
      (ofResult (Instantiator.make c.registry h)).run { p with instantiators } := by
    show (let s := InstantiatorTable.get c.registry p.instantiators h;
      (ofResult s.1 : LinkM σ _).run { p with instantiators := s.2 }) = _
    rw [heq]
  rw [hrun]
  exact performs_ofResult _ _ hcoherent

theorem performs_build (i : Instantiator σ) (a : Annotation) (target : GenericType) :
    Performs c (build c i a target)
      (Contribution.ofRun (i.instantiate c.registry a target c.config.containPanics)) := by
  intro p hp
  -- A panic, a fault or a state: the run is on record in each case.
  rcases hrun : i.instantiate c.registry a target c.config.containPanics with
    ⟨payload | (e | state), calls⟩
  all_goals
    refine ⟨{ p with calls := p.calls ++ calls }, ?_, ⟨hp.definitions, hp.instantiators⟩, rfl,
      (List.append_nil _).symm⟩
    unfold build
    rw [hrun]
    rfl

end LinkM

/-! ## Taking runs apart -/

namespace LinkM

variable {c : LinkContext σ} {α β : Type}

/-- A run of two parts ends with a fault of the first, or goes on with the second
    where the first has ended. -/
theorem run_bind_cases {m : LinkM σ α} {next : α → LinkM σ β} {p p' : LinkProgress σ}
    {result : Except LinkFault β} (h : (m >>= next).run p = (result, p')) :
    (∃ e, m.run p = (.error e, p') ∧ result = .error e) ∨
    ∃ a q, m.run p = (.ok a, q) ∧ (next a).run q = (result, p') := by
  rcases hm : m.run p with ⟨e | a, q⟩
  · rw [run_bind_of_error hm next] at h
    cases h
    exact Or.inl ⟨e, rfl, rfl⟩
  · rw [run_bind_of_ok hm next] at h
    exact Or.inr ⟨a, q, rfl, h⟩

/-- A run over items that ends with a fault does so at one of them, and has gone
    through all those before it. -/
theorem run_forM_eq_error {ι : Type} {step : ι → LinkM σ Unit} {e : LinkFault} (items : List ι)
    {p p' : LinkProgress σ} (h : (items.forM step).run p = (.error e, p')) :
    ∃ before i after q, items = before ++ i :: after ∧
      (before.forM step).run p = (.ok (), q) ∧ (step i).run q = (.error e, p') := by
  induction items generalizing p with
  | nil => cases h
  | cons first rest ih =>
    -- The fault is at the first item, or at one of the rest after the first has ended.
    have hbind : (step first >>= fun _ => rest.forM step).run p = (.error e, p') := h
    rcases run_bind_cases hbind with ⟨e', hfirst, he⟩ | ⟨_, q, hfirst, hrest⟩
    · cases he
      exact ⟨[], first, rest, p, rfl, rfl, hfirst⟩
    · obtain ⟨before, i, after, q', rfl, hbefore, hi⟩ := ih hrest
      refine ⟨first :: before, i, after, q', rfl, ?_, hi⟩
      show (step first >>= fun _ => before.forM step).run p = _
      rw [run_bind_of_ok hfirst]
      exact hbefore

/-- What a run shows of the contribution that it performs. -/
theorem Performs.of_run {m : LinkM σ α} {k : Contribution σ α} (hm : Performs c m k)
    {p p' : LinkProgress σ} {result : Except LinkFault α} (hp : p.Coherent c)
    (h : m.run p = (result, p')) : k.result = result ∧ p'.Coherent c := by
  obtain ⟨q, hrun, hq, -, -⟩ := hm p hp
  rw [h] at hrun
  cases hrun
  exact ⟨rfl, hq⟩

end LinkM

/-! ## Links come to their contributions -/

namespace Link

variable {c : LinkContext σ}

theorem performs_addOwn (target : Target) (path : List String) (a : Annotation)
    (d : GuardDefinition) :
    LinkM.Performs c (addOwn c target path a d) (contributeOwn c target path a d) := by
  unfold addOwn contributeOwn
  cases d.marking with
  | none => exact LinkM.performs_pure ()
  | some marking =>
    exact (LinkM.performs_ofResult _).bind fun _ _ =>
      (LinkM.performs_instantiatorOf _).bind fun instantiator _ =>
        (LinkM.performs_build instantiator a target.type).bind fun _ _ =>
          (LinkM.performs_ofText _).bind fun _ _ => LinkM.performs_push _

/-- **The tables change no contribution**: an annotation is expanded to what it
    contributes by the registry alone. -/
theorem performs_expand (target : Target) (depth : Nat) (path : List String) (a : Annotation) :
    LinkM.Performs c (expand c target depth path a) (contribute c target depth path a) := by
  -- The recursion is the same on both sides, so each part is compared with its own.
  induction depth generalizing path a with
  | zero => exact LinkM.performs_throw _
  | succ depth ih =>
    refine (LinkM.performs_definitionOf a.type).bind fun result _ => ?_
    cases result with
    | none => exact LinkM.performs_pure ()
    | some d =>
      exact (performs_addOwn target _ a d).bind fun _ _ => LinkM.performs_forM (ih _) d.implied

theorem performs_expandAll (guards : SlotGuards) :
    LinkM.Performs c (expandAll c guards) (contributeAll c guards) :=
  LinkM.performs_forM (performs_expand guards.target _ []) guards.annotations

/-- A slot is linked to what its annotations contribute. -/
theorem linkSlot_eq {definitions : DefinitionTable} {instantiators : InstantiatorTable σ}
    (hd : definitions.Coherent c.registry c.config)
    (hi : Entries.Agrees instantiators (Instantiator.make c.registry)) (guards : SlotGuards) :
    ∃ p, linkSlot c definitions instantiators guards = (outcome c guards, p) ∧
      p.Coherent c ∧ p.calls = (contributeAll c guards).calls := by
  obtain ⟨p, hrun, hp, hcalls, hinstances⟩ :=
    performs_expandAll guards { definitions, instantiators } ⟨hd, hi⟩
  refine ⟨p, ?_, hp, hcalls⟩
  unfold linkSlot
  rw [hrun]
  show (settle c p.instances _, p) = _
  rw [hinstances, List.nil_append]
  rfl

/-! ## How a link can end -/

/-- A link that comes to a state has gone through, or ended with a fault. -/
theorem settle_eq_ok {chain : List (GuardInstance σ)} {result : Except LinkFault Unit}
    {state : SlotState σ} (h : settle c chain result = .ok state) :
    (result = .ok () ∧ state = .linked chain) ∨
    ((∃ e, result = .error e) ∧ ∃ reason, state = .disabled reason) := by
  rcases result with (e | (payload | _ | _)) | _
  · cases h
    exact Or.inr ⟨⟨_, rfl⟩, _, rfl⟩
  · simp only [settle] at h
    split at h
    · cases h
      exact Or.inr ⟨⟨_, rfl⟩, _, rfl⟩
    · cases h
  · cases h
  · cases h
  · cases h
    exact Or.inl ⟨rfl, rfl⟩

/-- A link that breaks off ends with what it breaks off with, and a panic breaks it
    off only if it is not contained. -/
theorem settle_eq_error {chain : List (GuardInstance σ)} {result : Except LinkFault Unit}
    {abort : Abort} (h : settle c chain result = .error abort) :
    result = .error (.aborted abort) ∧
      (∀ payload, abort = .panicked payload → c.config.containPanics = false) := by
  rcases result with (e | (payload | _ | _)) | _
  · cases h
  · cases hcontain : c.config.containPanics with
    | true =>
      simp only [settle, hcontain, if_true] at h
      cases h
    | false =>
      simp only [settle, hcontain, Bool.false_eq_true, if_false] at h
      cases h
      exact ⟨rfl, fun _ _ => rfl⟩
  · cases h
    exact ⟨rfl, fun _ hpanic => by cases hpanic⟩
  · cases h
    exact ⟨rfl, fun _ hpanic => by cases hpanic⟩
  · cases h

end Link

end AnnotationGuards
