import AnnotationGuards.Proofs.Chain.Forest
import AnnotationGuards.Proofs.Chain.Protection
import AnnotationGuards.Proofs.Message.Rendering

/-! # Faults of guards

    A link walks through the forest of a slot's annotations, every tree from its root
    down and from left to right. At each node it puts one guard to work: it asks for
    the definition, and for a marked guard it then matches a test, wires the handler
    class, finds the arguments of its constructor and runs it. The first of these that
    fails ends the walk.

    * `Link.putToWork`: what comes of one guard, and which handler code it runs.
    * `Link.WalkEnds`: how a walk ends. `Link.WalkEnds.unique`: it ends in one way.
    * `Link.FirstFault`, `Link.firstFault_iff`: where a walk ends with a fault.
      `Link.exists_firstFault_iff`: it does if any guard of it fails.
    * `Link.walkEnds_contribute`: what annotations contribute ends as the walk does. -/

namespace AnnotationGuards

variable {σ : Type} {c : LinkContext σ} {type : GenericType} {target : Target} {a : Annotation}

namespace Link

/-! ## One guard -/

/-- What a marked guard needs before its handler is built, in the order in which it is
    asked for: a test for the type, a wired handler class, and the arguments of its
    constructor. -/
def prepare (c : LinkContext σ) (type : GenericType) (a : Annotation) (d : GuardDefinition)
    (marking : Marking) : Except GuardError (Instantiator σ × List Injected) := do
  let _ ← MatchedTest.find c.registry d.name marking.testsNull marking.handler type
  let instantiator ← Instantiator.make c.registry marking.handler
  let injected ← Instantiator.arguments c.registry instantiator.handlerName a type
    instantiator.wiring
  pure (instantiator, injected)

/-- What comes of building a handler, if panics are contained. -/
def construct (i : Instantiator σ) (injected : List Injected) : Except GuardError Unit :=
  match i.constructor.build injected with
  | .ok (.ok _) => .ok ()
  | .ok (.error reason) => .error (.construction i.handlerName reason)
  | .error payload => .error (.construction i.handlerName payload.reason)

/-- What comes of putting the guard of an annotation to work on targets of a type, if
    panics are contained, and the handler code that this runs. -/
def putToWork (c : LinkContext σ) (type : GenericType) (a : Annotation) :
    Except GuardError Unit × List Call :=
  match c.registry.definition c.config a.type with
  | .error e => (.error e, [])
  | .ok none => (.ok (), [])
  | .ok (some d) =>
    match d.marking with
    | none => (.ok (), [])
    | some marking =>
      match prepare c type a d marking with
      | .error e => (.error e, [])
      | .ok (i, injected) => (construct i injected, [.built i.constructor.label injected])

/-- The guard of the annotation cannot be put to work, for this error and after this
    handler code has run. -/
def Fails (c : LinkContext σ) (type : GenericType) (a : Annotation) (e : GuardError)
    (calls : List Call) : Prop :=
  putToWork c type a = (.error e, calls)

/-- The guard of the annotation is put to work, which runs this handler code. -/
def Works (c : LinkContext σ) (type : GenericType) (a : Annotation) (calls : List Call) : Prop :=
  putToWork c type a = (.ok (), calls)

/-- What a marked guard contributes itself, by what it needs before its handler is
    built. -/
theorem contributeInstance_eq (target : Target) (path : List String) (a : Annotation)
    (d : GuardDefinition) (marking : Marking) (hcontain : c.config.containPanics = true) :
    (∃ e, prepare c target.type a d marking = .error e ∧
      contributeInstance c target path a d marking = Contribution.fault (.misconfigured e)) ∨
    ∃ i injected, prepare c target.type a d marking = .ok (i, injected) ∧
      (contributeInstance c target path a d marking).calls =
        [.built i.constructor.label injected] ∧
      ((∃ e, construct i injected = .error e ∧
          (contributeInstance c target path a d marking).result = .error (.misconfigured e)) ∨
        construct i injected = .ok () ∧
          (contributeInstance c target path a d marking).result =
            if (message? c.registry marking a).isSome then .ok ()
            else .error (.aborted .endlessText)) := by
  unfold contributeInstance prepare
  cases MatchedTest.find c.registry d.name marking.testsNull marking.handler target.type with
  | error e => exact Or.inl ⟨e, rfl, rfl⟩
  | ok test =>
    cases Instantiator.make c.registry marking.handler with
    | error e => exact Or.inl ⟨e, rfl, rfl⟩
    | ok i =>
      simp only [Contribution.ofResult_ok_bind]
      cases harguments : Instantiator.arguments c.registry i.handlerName a target.type i.wiring with
      | error e =>
        refine Or.inl ⟨e, ?_, ?_⟩
        · show (Instantiator.arguments c.registry i.handlerName a target.type i.wiring >>= _) = _
          rw [harguments]
          rfl
        · unfold Instantiator.instantiate
          rw [harguments]
          rfl
      | ok injected =>
        refine Or.inr ⟨i, injected, ?_, ?_⟩
        · show (Instantiator.arguments c.registry i.handlerName a target.type i.wiring >>= _) = _
          rw [harguments]
          rfl
        · -- The constructor has run; the message is asked for if it has gone through.
          unfold Instantiator.instantiate construct Constructor.run
          rw [harguments, hcontain]
          dsimp only
          rcases i.constructor.build injected with payload | (reason | state)
          · exact ⟨rfl, Or.inl ⟨_, rfl, rfl⟩⟩
          · exact ⟨rfl, Or.inl ⟨_, rfl, rfl⟩⟩
          · cases message? c.registry marking a with
            | none => exact ⟨rfl, Or.inr ⟨rfl, rfl⟩⟩
            | some message => exact ⟨rfl, Or.inr ⟨rfl, rfl⟩⟩

/-- **A guard's own part** ends as the guard is put to work, or at a message without
    end. -/
theorem contributeOwn_ends {d : GuardDefinition} (hcontain : c.config.containPanics = true)
    (hdef : c.registry.definition c.config a.type = .ok (some d)) (target : Target)
    (path : List String) :
    (∃ e, Fails c target.type a e (contributeOwn c target path a d).calls ∧
      (contributeOwn c target path a d).result = .error (.misconfigured e)) ∨
    (Works c target.type a (contributeOwn c target path a d).calls ∧
      (¬ EndlessMessage c a ∧ (contributeOwn c target path a d).result = .ok () ∨
        EndlessMessage c a ∧
          (contributeOwn c target path a d).result = .error (.aborted .endlessText))) := by
  have hmessage : EndlessMessage c a ↔
      ∃ marking, d.marking = some marking ∧ message? c.registry marking a = none := by
    constructor
    · rintro ⟨d', marking, hdef', hmarking, hnone⟩
      rw [hdef] at hdef'
      cases hdef'
      exact ⟨marking, hmarking, hnone⟩
    · rintro ⟨marking, hmarking, hnone⟩
      exact ⟨d, marking, hdef, hmarking, hnone⟩
  rw [hmessage]
  unfold Fails Works putToWork contributeOwn
  rw [hdef]
  dsimp only
  cases hmarking : d.marking with
  | none => exact Or.inr ⟨rfl, Or.inl ⟨fun ⟨_, hsome, _⟩ => (by cases hsome), rfl⟩⟩
  | some marking =>
    dsimp only
    rcases contributeInstance_eq target path a d marking hcontain with
      ⟨e, hprepared, hfault⟩ |
        ⟨i, injected, hprepared, hcalls, ⟨e, hbuilt, hresult⟩ | ⟨hbuilt, hresult⟩⟩
    · rw [hprepared, hfault]
      exact Or.inl ⟨e, rfl, rfl⟩
    · rw [hprepared, hcalls]
      exact Or.inl ⟨e, by simp only [hbuilt], hresult⟩
    · rw [hprepared, hcalls, hresult]
      refine Or.inr ⟨by simp only [hbuilt], ?_⟩
      cases hnone : message? c.registry marking a with
      | none => exact Or.inr ⟨⟨marking, rfl, hnone⟩, rfl⟩
      | some message =>
        refine Or.inl ⟨?_, rfl⟩
        rintro ⟨_, hsame, hnone'⟩
        cases hsame
        rw [hnone] at hnone'
        cases hnone'

/-! ## Walks -/

/-- How a walk through nodes ends, and the handler code that it runs. It goes on from
    one node to the next as long as guards can be put to work and have messages. -/
inductive WalkEnds (c : LinkContext σ) (type : GenericType) :
    List GuardNode → Except LinkFault Unit → List Call → Prop
  | done : WalkEnds c type [] (.ok ()) []
  | fails {n : GuardNode} {e : GuardError} {calls : List Call} (rest : List GuardNode)
    (h : Fails c type n.annotation e calls) :
    WalkEnds c type (n :: rest) (.error (.misconfigured e)) calls
  | endless {n : GuardNode} {calls : List Call} (rest : List GuardNode)
    (h : Works c type n.annotation calls) (hmessage : EndlessMessage c n.annotation) :
    WalkEnds c type (n :: rest) (.error (.aborted .endlessText)) calls
  | works {n : GuardNode} {rest : List GuardNode} {result : Except LinkFault Unit}
    {calls later : List Call} (h : Works c type n.annotation calls)
    (hmessage : ¬ EndlessMessage c n.annotation) (hrest : WalkEnds c type rest result later) :
    WalkEnds c type (n :: rest) result (calls ++ later)

namespace WalkEnds

variable {nodes rest : List GuardNode} {result result' : Except LinkFault Unit}
  {calls calls' later : List Call} {e : GuardError}

/-- A walk that goes through goes on with the nodes that follow. -/
theorem append (h : WalkEnds c type nodes (.ok ()) calls)
    (hrest : WalkEnds c type rest result later) :
    WalkEnds c type (nodes ++ rest) result (calls ++ later) := by
  generalize hok : (Except.ok () : Except LinkFault Unit) = through at h
  induction h with
  | done => exact hrest
  | fails => cases hok
  | endless => cases hok
  | works h hmessage _ ih =>
    rw [List.append_assoc]
    exact .works h hmessage (ih hok)

/-- A walk that has ended before does not come to the nodes that follow. -/
theorem append_of_error {fault : LinkFault} (h : WalkEnds c type nodes (.error fault) calls)
    (rest : List GuardNode) : WalkEnds c type (nodes ++ rest) (.error fault) calls := by
  generalize herror : (Except.error fault : Except LinkFault Unit) = ended at h
  induction h with
  | done => cases herror
  | fails _ h => exact .fails _ h
  | endless _ h hmessage => exact .endless _ h hmessage
  | works h hmessage _ ih => exact .works h hmessage (ih herror)

/-- A walk ends in one way. -/
theorem unique (h : WalkEnds c type nodes result calls)
    (h' : WalkEnds c type nodes result' calls') : result' = result ∧ calls' = calls := by
  induction h generalizing result' calls' with
  | done =>
    cases h'
    exact ⟨rfl, rfl⟩
  | fails rest h =>
    cases h' with
    | fails _ h' => cases h.symm.trans h'; exact ⟨rfl, rfl⟩
    | endless _ h' _ => cases h.symm.trans h'
    | works h' _ _ => cases h.symm.trans h'
  | endless rest h hmessage =>
    cases h' with
    | fails _ h' => cases h.symm.trans h'
    | endless _ h' _ => cases h.symm.trans h'; exact ⟨rfl, rfl⟩
    | works _ hmessage' _ => exact absurd hmessage hmessage'
  | works h hmessage _ ih =>
    cases h' with
    | fails _ h' => cases h.symm.trans h'
    | endless _ _ hmessage' => exact absurd hmessage' hmessage
    | works h' _ hrest' =>
      cases h.symm.trans h'
      obtain ⟨rfl, rfl⟩ := ih hrest'
      exact ⟨rfl, rfl⟩

/-- A walk goes through, or ends with a fault of a guard or at a message without end. -/
theorem result_cases (h : WalkEnds c type nodes result calls) :
    result = .ok () ∨ (∃ e, result = .error (.misconfigured e)) ∨
      result = .error (.aborted .endlessText) := by
  induction h with
  | done => exact Or.inl rfl
  | fails => exact Or.inr (Or.inl ⟨_, rfl⟩)
  | endless => exact Or.inr (Or.inr rfl)
  | works _ _ _ ih => exact ih

end WalkEnds

/-- The first fault of a walk through nodes, and the handler code that has run by then:
    that of the guards before it, which all could be put to work, and its own. -/
def FirstFault (c : LinkContext σ) (type : GenericType) (nodes : List GuardNode) (e : GuardError)
    (calls : List Call) : Prop :=
  ∃ before n after runs own, nodes = before ++ n :: after ∧
    List.Forall₂ (fun b run => Works c type b.annotation run ∧ ¬ EndlessMessage c b.annotation)
      before runs ∧
    Fails c type n.annotation e own ∧ calls = runs.flatten ++ own

/-- A walk ends with a fault exactly if this is its first. -/
theorem firstFault_iff {nodes : List GuardNode} {e : GuardError} {calls : List Call} :
    FirstFault c type nodes e calls ↔ WalkEnds c type nodes (.error (.misconfigured e)) calls := by
  constructor
  · rintro ⟨before, n, after, runs, own, rfl, hbefore, hfails, rfl⟩
    induction hbefore with
    | nil => exact .fails after hfails
    | cons hfirst _ ih =>
      rw [List.flatten_cons, List.append_assoc]
      exact .works hfirst.1 hfirst.2 ih
  · intro h
    generalize hresult : (Except.error (.misconfigured e) : Except LinkFault Unit) = result at h
    induction h with
    | done => cases hresult
    | fails rest h =>
      cases hresult
      exact ⟨[], _, rest, [], _, rfl, .nil, h, rfl⟩
    | endless => cases hresult
    | @works n rest _ run later h hmessage _ ih =>
      obtain ⟨before, n', after, runs, own, hnodes, hbefore, hfails, hlater⟩ := ih hresult
      refine ⟨n :: before, n', after, run :: runs, own, ?_, .cons ⟨h, hmessage⟩ hbefore,
        hfails, ?_⟩
      · rw [hnodes]
        rfl
      · rw [hlater, List.flatten_cons, List.append_assoc]

/-- Where all messages have an end, there is a first fault exactly if some guard cannot
    be put to work. -/
theorem exists_firstFault_iff {nodes : List GuardNode}
    (hmessages : ∀ n ∈ nodes, ¬ EndlessMessage c n.annotation) :
    (∃ e calls, FirstFault c type nodes e calls) ↔
      ∃ n ∈ nodes, ∃ e calls, Fails c type n.annotation e calls := by
  constructor
  · rintro ⟨e, calls, before, n, after, runs, own, rfl, -, hfails, -⟩
    exact ⟨n, by simp, e, own, hfails⟩
  · intro hsome
    induction nodes with
    | nil =>
      obtain ⟨n, hn, -⟩ := hsome
      cases hn
    | cons first rest ih =>
      obtain ⟨hfirst, hrest⟩ := List.forall_mem_cons.mp hmessages
      rcases hwork : putToWork c type first.annotation with ⟨e | _, calls⟩
      · exact ⟨e, calls, firstFault_iff.mpr (.fails rest hwork)⟩
      · -- The first guard works, so the one that fails is among the others.
        obtain ⟨n, hn, e, own, hfails⟩ := hsome
        rcases List.mem_cons.mp hn with rfl | hn
        · cases hwork.symm.trans hfails
        · obtain ⟨e, later, hlater⟩ := ih hrest ⟨n, hn, e, own, hfails⟩
          exact ⟨e, _, firstFault_iff.mpr (.works hwork hfirst (firstFault_iff.mp hlater))⟩

end Link

/-! ## The forest that is walked through -/

namespace Registry

open Relation

variable {r : Registry σ}

/-- The roots are those of the annotations that call for a guard, circular ones
    included, and each tree unfolds them. -/
structure IsWalked (r : Registry σ) (annotations : List Annotation) (forest : List GuardTree) :
    Prop where
  roots : forest.map GuardTree.root = annotations.filter r.isGuardLike
  unfolds : ∀ tree ∈ forest, r.Unfolds tree

theorem IsWalked.unique {annotations : List Annotation} {forest other : List GuardTree}
    (h : r.IsWalked annotations forest) (h' : r.IsWalked annotations other) : other = forest :=
  forest_unique (fun _ htree _ h' hroot => (h.unfolds _ htree).unique h' hroot) h'.unfolds
    (h'.roots.trans h.roots.symm)

/-- Annotations have a forest if each of them has a tree. -/
theorem exists_forest_of_exists_tree {annotations : List Annotation}
    (h : ∀ a ∈ annotations, ∃ tree : GuardTree, tree.root = a ∧ r.Unfolds tree) :
    ∃ forest : List GuardTree, forest.map GuardTree.root = annotations ∧
      ∀ tree ∈ forest, r.Unfolds tree := by
  induction annotations with
  | nil => exact ⟨[], rfl, by simp⟩
  | cons a rest ih =>
    obtain ⟨⟨tree, hroot, hunfolds⟩, hrest⟩ := List.forall_mem_cons.mp h
    obtain ⟨forest, hroots, hforest⟩ := ih hrest
    exact ⟨tree :: forest, by rw [List.map_cons, hroot, hroots],
      List.forall_mem_cons.mpr ⟨hunfolds, hforest⟩⟩

/-- A tree of an annotation, from those of the guards on its type. -/
theorem exists_unfolds_of_implied {a : Annotation}
    (h : ∀ b ∈ r.impliedOf a.type, ∃ tree : GuardTree, tree.root = b ∧ r.Unfolds tree) :
    ∃ tree : GuardTree, tree.root = a ∧ r.Unfolds tree := by
  obtain ⟨below, hroots, hbelow⟩ := exists_forest_of_exists_tree h
  exact ⟨.node a below, rfl, .node hroots hbelow⟩

/-- **Every annotation unfolds to a tree**: there are finitely many types, and what a
    guard is composed of never leads back. -/
theorem exists_unfolds (r : Registry σ) (a : Annotation) :
    ∃ tree : GuardTree, tree.root = a ∧ r.Unfolds tree := by
  have hwf := TypeId.wellFounded_of_acyclic r.not_transGen_implies
  have hguards : ∀ t, r.isGuard t = true → ∀ b : Annotation, b.type = t →
      ∃ tree : GuardTree, tree.root = b ∧ r.Unfolds tree := by
    intro t
    induction t using hwf.induction with
    | _ t ih =>
      intro hguard b hb
      subst hb
      apply exists_unfolds_of_implied
      intro d hd
      have hstep : r.Implies b.type d.type := ⟨hguard, d, hd, rfl⟩
      exact ih d.type hstep hstep.isGuard d rfl
  -- The annotation itself may be circular, but the guards on its type are guards.
  apply exists_unfolds_of_implied
  intro b hb
  exact hguards b.type (mem_impliedOf.mp hb).2.2 b rfl

theorem exists_isWalked (r : Registry σ) (annotations : List Annotation) :
    ∃ forest, r.IsWalked annotations forest := by
  have htrees : ∀ a ∈ annotations.filter r.isGuardLike,
      ∃ tree : GuardTree, tree.root = a ∧ r.Unfolds tree := fun a _ => r.exists_unfolds a
  obtain ⟨forest, hroots, hunfolds⟩ := exists_forest_of_exists_tree htrees
  exact ⟨forest, hroots, hunfolds⟩

theorem isGuardLike_of_mem_impliedOf {t : TypeId} {b : Annotation} (h : b ∈ r.impliedOf t) :
    r.isGuardLike b = true := by
  have hguard := isGuard_iff.mp (mem_impliedOf.mp h).2.2
  unfold isGuardLike
  rw [hguard]

end Registry

/-! ## Links are walks -/

namespace Link

variable {path : List String} {above : List Annotation} {depth : Nat}

/-- What the roots of a forest contribute ends as the walk through the forest does, if
    this holds of each tree. -/
theorem walkEnds_forM {forest : List GuardTree}
    (h : ∀ tree ∈ forest,
      (contribute c target depth path tree.root).result ≠ .error (.aborted .endlessNesting) →
      WalkEnds c target.type (tree.nodes above) (contribute c target depth path tree.root).result
        (contribute c target depth path tree.root).calls)
    (hends : ((forest.map GuardTree.root).forM (contribute c target depth path)).result ≠
      .error (.aborted .endlessNesting)) :
    WalkEnds c target.type (GuardTree.nodesOfAll above forest)
      ((forest.map GuardTree.root).forM (contribute c target depth path)).result
      ((forest.map GuardTree.root).forM (contribute c target depth path)).calls := by
  induction forest with
  | nil => exact .done
  | cons tree forest ih =>
    obtain ⟨htree, hforest⟩ := List.forall_mem_cons.mp h
    have hcons : ((tree :: forest).map GuardTree.root).forM (contribute c target depth path) =
        (contribute c target depth path tree.root >>= fun _ =>
          (forest.map GuardTree.root).forM (contribute c target depth path)) := rfl
    rw [hcons] at hends ⊢
    unfold GuardTree.nodesOfAll
    cases hresult : (contribute c target depth path tree.root).result with
    | error fault =>
      rw [Contribution.bind_of_error hresult] at hends ⊢
      rw [hresult] at htree
      exact (htree hends).append_of_error _
    | ok _ =>
      rw [Contribution.bind_of_ok hresult] at hends ⊢
      rw [hresult] at htree
      have hthrough : (.ok () : Except LinkFault Unit) ≠ .error (.aborted .endlessNesting) := by
        intro h
        cases h
      exact (htree hthrough).append (ih hforest hends)

/-- **What an annotation contributes** ends as the walk through its tree does, and runs
    the same handler code. The induction is along the tree; one node is the guard's own
    part, and then the walk through the trees below it. -/
theorem walkEnds_contribute (hcontain : c.config.containPanics = true) {tree : GuardTree}
    (hunfolds : c.registry.Unfolds tree) (hlike : c.registry.isGuardLike tree.root = true)
    (hends : (contribute c target depth path tree.root).result ≠
      .error (.aborted .endlessNesting)) :
    WalkEnds c target.type (tree.nodes above) (contribute c target depth path tree.root).result
      (contribute c target depth path tree.root).calls := by
  induction hunfolds generalizing depth path above with
  | @node root below hroots _ ih =>
    have hroot : (GuardTree.node root below).root = root := rfl
    rw [hroot] at hlike hends ⊢
    cases depth with
    | zero => exact absurd rfl hends
    | succ depth =>
      unfold GuardTree.nodes
      cases hdef : c.registry.definition c.config root.type with
      | error e =>
        have hfails : Fails c target.type root e [] := by
          unfold Fails putToWork
          rw [hdef]
        rw [contribute_of_faulty hdef]
        exact .fails _ hfails
      | ok found =>
        cases found with
        | none =>
          have hclass := Registry.definition_eq_none_iff.mp hdef
          rw [Registry.isGuardLike_eq_false_iff.mpr hclass] at hlike
          cases hlike
        | some d =>
          obtain ⟨-, himplied, -⟩ := Registry.definition_eq_some hdef
          rw [contribute_of_definition hdef] at hends ⊢
          rcases contributeOwn_ends hcontain hdef target
              (path ++ ["@" ++ c.registry.simpleName root.type]) with
            ⟨e, hfails, hresult⟩ | ⟨hworks, ⟨hmessage, hresult⟩ | ⟨hmessage, hresult⟩⟩
          · rw [Contribution.bind_of_error hresult]
            exact .fails _ hfails
          · rw [Contribution.bind_of_ok hresult] at hends ⊢
            rw [himplied, ← hroots] at hends ⊢
            refine .works hworks hmessage (walkEnds_forM (fun tree htree hsub => ?_) hends)
            have hmem : tree.root ∈ c.registry.impliedOf root.type := by
              rw [← hroots]
              exact List.mem_map_of_mem htree
            exact ih tree htree (Registry.isGuardLike_of_mem_impliedOf hmem) hsub
          · rw [Contribution.bind_of_error hresult]
            exact .endless _ hworks hmessage

/-- **A link is a walk** through the forest of its annotations. -/
theorem walkEnds_contributeAll (hcontain : c.config.containPanics = true) {guards : SlotGuards}
    {forest : List GuardTree} (hforest : c.registry.IsWalked guards.annotations forest)
    (hends : (contributeAll c guards).result ≠ .error (.aborted .endlessNesting)) :
    WalkEnds c guards.target.type (GuardTree.nodesOfAll [] forest) (contributeAll c guards).result
      (contributeAll c guards).calls := by
  rw [contributeAll_eq_filter, ← hforest.roots] at hends ⊢
  refine walkEnds_forM (fun tree htree hsub => ?_) hends
  apply walkEnds_contribute hcontain (hforest.unfolds tree htree) _ hsub
  have hmem : tree.root ∈ guards.annotations.filter c.registry.isGuardLike := by
    rw [← hforest.roots]
    exact List.mem_map_of_mem htree
  exact (List.mem_filter.mp hmem).2

end Link

end AnnotationGuards
