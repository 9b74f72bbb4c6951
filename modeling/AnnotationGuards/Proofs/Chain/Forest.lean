import AnnotationGuards.Proofs.Chain.Linking

/-! # The forest behind a chain

    The guard annotations of a slot are the roots of a forest: below each
    annotation stand the guard annotations on its type. A chain goes through this
    forest, every tree from its root down and from left to right, and has an
    instance for each node whose type carries the marker.

    * `GuardTree`, `GuardTree.nodes`: trees, and their nodes in this order, each
      with the annotations above it.
    * `Registry.Unfolds`, `Registry.IsForest`: the trees that the registry gives.
      `Registry.IsForest.unique`: there is no other.
    * `GuardInstance.WorksAt`: an instance is the one for a node.
    * `Link.exists_tree`, `Link.exists_forest`: what annotations contribute, by
      induction on the depth and along the annotations. -/

namespace AnnotationGuards

variable {σ : Type} {r : Registry σ} {c : LinkContext σ} {target : Target} {a : Annotation}

/-! ## Trees -/

/-- An annotation, and the trees of the annotations on its type. -/
inductive GuardTree where
  | node (root : Annotation) (below : List GuardTree)

/-- An annotation in a forest, and those above it from the outermost one down. -/
structure GuardNode where
  above : List Annotation
  annotation : Annotation

/-- The names of annotations as chains show them. -/
def Registry.pathOf (r : Registry σ) (annotations : List Annotation) : List String :=
  annotations.map fun a => "@" ++ r.simpleName a.type

/-- The way from the outermost annotation down to the node, the node included. -/
def GuardNode.path (r : Registry σ) (n : GuardNode) : List String :=
  r.pathOf (n.above ++ [n.annotation])

namespace GuardTree

def root : GuardTree → Annotation
  | .node root _ => root

mutual

/-- The nodes of a tree that stands below some annotations: the root, and then the
    nodes of each tree below it, from left to right. -/
def nodes (above : List Annotation) : GuardTree → List GuardNode
  | .node root below => ⟨above, root⟩ :: nodesOfAll (above ++ [root]) below

/-- The nodes of the trees of a forest, one tree after the other. -/
def nodesOfAll (above : List Annotation) : List GuardTree → List GuardNode
  | [] => []
  | tree :: rest => nodes above tree ++ nodesOfAll above rest

end

end GuardTree

namespace Registry

/-- Below every annotation of the tree stand the guard annotations on its type, in
    order of declaration. -/
inductive Unfolds (r : Registry σ) : GuardTree → Prop
  | node {root : Annotation} {below : List GuardTree}
    (hroots : below.map GuardTree.root = r.impliedOf root.type)
    (hbelow : ∀ tree ∈ below, Unfolds r tree) : Unfolds r (.node root below)

/-- The roots are the guards among the annotations, and each tree unfolds them. -/
structure IsForest (r : Registry σ) (annotations : List Annotation) (forest : List GuardTree) :
    Prop where
  roots : forest.map GuardTree.root = annotations.filter fun a => r.isGuard a.type
  unfolds : ∀ tree ∈ forest, r.Unfolds tree

instance (r : Registry σ) (t : TypeId) : Decidable (r.Marked t) :=
  inferInstanceAs (Decidable (∃ a ∈ r.metas t, a.type = .guardMarker))

/-- Those of the nodes whose annotation type carries the marker. -/
def marked (r : Registry σ) (nodes : List GuardNode) : List GuardNode :=
  nodes.filter fun n => r.Marked n.annotation.type

theorem marked_append (nodes rest : List GuardNode) :
    r.marked (nodes ++ rest) = r.marked nodes ++ r.marked rest :=
  List.filter_append ..

/-! ## There is one forest -/

/-- Trees with the same roots are the same, if those of one of the forests are
    determined by their roots. -/
theorem forest_unique {forest other : List GuardTree}
    (h : ∀ tree ∈ forest, ∀ tree', r.Unfolds tree' → tree'.root = tree.root → tree' = tree)
    (hunfolds : ∀ tree ∈ other, r.Unfolds tree)
    (hroots : other.map GuardTree.root = forest.map GuardTree.root) : other = forest := by
  induction forest generalizing other with
  | nil => exact List.map_eq_nil_iff.mp hroots
  | cons tree forest ih =>
    cases other with
    | nil => cases hroots
    | cons tree' other =>
      obtain ⟨hroot, hrest⟩ := List.cons.inj hroots
      obtain ⟨htree, hforest⟩ := List.forall_mem_cons.mp h
      obtain ⟨hunfold, hunfolds⟩ := List.forall_mem_cons.mp hunfolds
      rw [htree tree' hunfold hroot, ih hforest hunfolds hrest]

/-- A root determines its tree. -/
theorem Unfolds.unique {tree tree' : GuardTree} (h : r.Unfolds tree) (h' : r.Unfolds tree')
    (hroot : tree'.root = tree.root) : tree' = tree := by
  induction h generalizing tree' with
  | @node root below hroots _ ih =>
    cases h' with
    | @node root' below' hroots' hbelow' =>
      have hsame : root' = root := hroot
      subst hsame
      rw [forest_unique (fun tree htree tree' h' hroot => ih tree htree h' hroot) hbelow'
        (hroots'.trans hroots.symm)]

/-- **The annotations determine the forest.** -/
theorem IsForest.unique {annotations : List Annotation} {forest other : List GuardTree}
    (h : r.IsForest annotations forest) (h' : r.IsForest annotations other) : other = forest :=
  forest_unique (fun _ htree _ h' hroot => (h.unfolds _ htree).unique h' hroot) h'.unfolds
    (h'.roots.trans h.roots.symm)

/-- The guards on a type are guards. -/
theorem filter_impliedOf (r : Registry σ) (t : TypeId) :
    ((r.impliedOf t).filter fun a => r.isGuard a.type) = r.impliedOf t :=
  List.filter_eq_self.mpr fun _ ha => (mem_impliedOf.mp ha).2.2

end Registry

/-! ## Instances for nodes -/

/-- The instance is the one for a node: the test that its marker's handler has for
    the target, a handler that was built for its annotation, and its message. -/
def GuardInstance.WorksAt (c : LinkContext σ) (target : Target) (n : GuardNode)
    (g : GuardInstance σ) : Prop :=
  ∃ d marking test instantiator handler calls message,
    c.registry.definition c.config n.annotation.type = .ok (some d) ∧ d.marking = some marking ∧
    MatchedTest.find c.registry d.name marking.testsNull marking.handler target.type = .ok test ∧
    Instantiator.make c.registry marking.handler = .ok instantiator ∧
    instantiator.instantiate c.registry n.annotation target.type c.config.containPanics =
      (.ok (.ok handler), calls) ∧
    Link.message? c.registry marking n.annotation = some message ∧
    g = Link.instanceOf c target (n.path c.registry) n.annotation marking test handler message

theorem exists_of_forall₂ {α β : Type} {R : α → β → Prop} {left : List α} {right : List β}
    (h : List.Forall₂ R left right) {b : β} (hb : b ∈ right) : ∃ a, R a b := by
  induction h with
  | nil => cases hb
  | cons hfirst _ ih =>
    rcases List.mem_cons.mp hb with rfl | hb
    · exact ⟨_, hfirst⟩
    · exact ih hb

namespace GuardInstance.WorksAt

variable {n : GuardNode} {g : GuardInstance σ}

theorem annotation_eq (h : g.WorksAt c target n) : g.annotation = n.annotation := by
  obtain ⟨_, _, _, _, _, _, _, -, -, -, -, -, -, rfl⟩ := h
  rfl

theorem path_eq (h : g.WorksAt c target n) : g.path = n.path c.registry := by
  obtain ⟨_, _, _, _, _, _, _, -, -, -, -, -, -, rfl⟩ := h
  rfl

theorem target_eq (h : g.WorksAt c target n) : g.target = target := by
  obtain ⟨_, _, _, _, _, _, _, -, -, -, -, -, -, rfl⟩ := h
  rfl

end GuardInstance.WorksAt

namespace Link

/-- A marked guard's own part that has gone through is one instance, made of what
    was asked for on the way. -/
theorem contributeInstance_eq_ok {path : List String} {d : GuardDefinition} {marking : Marking}
    (h : (contributeInstance c target path a d marking).result = .ok ()) :
    ∃ test instantiator handler calls message,
      MatchedTest.find c.registry d.name marking.testsNull marking.handler target.type = .ok test ∧
      Instantiator.make c.registry marking.handler = .ok instantiator ∧
      instantiator.instantiate c.registry a target.type c.config.containPanics =
        (.ok (.ok handler), calls) ∧
      message? c.registry marking a = some message ∧
      (contributeInstance c target path a d marking).instances =
        [instanceOf c target path a marking test handler message] := by
  unfold contributeInstance at h ⊢
  cases hfind : MatchedTest.find c.registry d.name marking.testsNull marking.handler target.type with
  | error e => rw [hfind] at h; cases h
  | ok test =>
    cases hmake : Instantiator.make c.registry marking.handler with
    | error e => rw [hfind, hmake] at h; cases h
    | ok instantiator =>
      rw [hfind, hmake] at h
      simp only [Contribution.ofResult_ok_bind] at h ⊢
      rcases hrun : instantiator.instantiate c.registry a target.type c.config.containPanics with
        ⟨payload | (e | handler), calls⟩
      · rw [hrun] at h; cases h
      · rw [hrun] at h; cases h
      · cases hmessage : message? c.registry marking a with
        | none => rw [hrun, hmessage] at h; cases h
        | some message =>
          exact ⟨test, instantiator, handler, calls, message, rfl, rfl, hrun, rfl, rfl⟩

/-- A guard's own part that has gone through has the instance for its node, if its
    type carries the marker, and none otherwise. -/
theorem contributeOwn_worksAt {above : List Annotation} {d : GuardDefinition}
    (hdef : c.registry.definition c.config a.type = .ok (some d))
    (hok : (contributeOwn c target (c.registry.pathOf (above ++ [a])) a d).result = .ok ()) :
    List.Forall₂ (fun n g => g.WorksAt c target n) (c.registry.marked [⟨above, a⟩])
      (contributeOwn c target (c.registry.pathOf (above ++ [a])) a d).instances := by
  obtain ⟨-, -, hmarking⟩ := Registry.definition_eq_some hdef
  unfold contributeOwn at hok ⊢
  cases hd : d.marking with
  | none =>
    have hnot : ¬ c.registry.Marked a.type := by simpa [hd] using hmarking
    simp only [Registry.marked, List.filter_cons, hnot, decide_false, Bool.false_eq_true, if_false,
      List.filter_nil]
    exact .nil
  | some marking =>
    have hmarked : c.registry.Marked a.type := by simpa [hd] using hmarking
    rw [hd] at hok
    obtain ⟨test, instantiator, handler, calls, message, hfind, hmake, hrun, hmessage, hinstances⟩ :=
      contributeInstance_eq_ok hok
    simp only [Registry.marked, List.filter_cons, hmarked, decide_true, if_true, List.filter_nil,
      hinstances]
    exact .cons ⟨d, marking, test, instantiator, handler, calls, message, hdef, hd, hfind, hmake,
      hrun, hmessage, rfl⟩ .nil

variable {depth : Nat} {above : List Annotation}

/-- An annotation that is no guard contributes no instances, if the link goes on. -/
theorem instances_of_not_guard {path : List String} (hnot : c.registry.isGuard a.type = false)
    (hok : (contribute c target depth path a).result = .ok ()) :
    (contribute c target depth path a).instances = [] := by
  cases depth with
  | zero => cases hok
  | succ depth =>
    rcases hc : classify c.registry a.type with e | (_ | _)
    · have hcircular : ∃ e', (contribute c target (depth + 1) path a).result =
          .error (.misconfigured e') := contribute_of_circular hc
      obtain ⟨e', herror⟩ := hcircular
      rw [herror] at hok
      cases hok
    · rw [contribute_of_not_guard hc]
      rfl
    · rw [Registry.isGuard_iff.mpr hc] at hnot
      cases hnot

/-- Annotations of which each guard contributes the marked nodes of a tree contribute
    those of a forest. -/
theorem exists_forest_of_trees {path : List String}
    (htree : ∀ a, c.registry.isGuard a.type = true →
      (contribute c target depth path a).result = .ok () →
      ∃ tree : GuardTree, tree.root = a ∧ c.registry.Unfolds tree ∧
        List.Forall₂ (fun n g => g.WorksAt c target n) (c.registry.marked (tree.nodes above))
          (contribute c target depth path a).instances)
    {annotations : List Annotation}
    (hok : (annotations.forM (contribute c target depth path)).result = .ok ()) :
    ∃ forest, c.registry.IsForest annotations forest ∧
      List.Forall₂ (fun n g => g.WorksAt c target n)
        (c.registry.marked (GuardTree.nodesOfAll above forest))
        (annotations.forM (contribute c target depth path)).instances := by
  induction annotations with
  | nil => exact ⟨[], ⟨rfl, by simp⟩, .nil⟩
  | cons a rest ih =>
    have hbind : (contribute c target depth path a >>= fun _ =>
        rest.forM (contribute c target depth path)).result = .ok () := hok
    obtain ⟨_, hfirst, hrest, hinstances⟩ := Contribution.bind_eq_ok hbind
    have happend : ((a :: rest).forM (contribute c target depth path)).instances =
      (contribute c target depth path a).instances ++
        (rest.forM (contribute c target depth path)).instances := hinstances
    obtain ⟨forest, hforest, hrestworks⟩ := ih hrest
    rw [happend]
    cases hguard : c.registry.isGuard a.type with
    | false =>
      -- The annotation is no root, and leaves no trace in the chain.
      refine ⟨forest, ⟨?_, hforest.unfolds⟩, ?_⟩
      · rw [hforest.roots, List.filter_cons, hguard]
        rfl
      · rw [instances_of_not_guard hguard hfirst]
        exact hrestworks
    | true =>
      obtain ⟨tree, hroot, hunfolds, hworks⟩ := htree a hguard hfirst
      refine ⟨tree :: forest, ⟨?_, List.forall_mem_cons.mpr ⟨hunfolds, hforest.unfolds⟩⟩, ?_⟩
      · rw [List.map_cons, hroot, hforest.roots, List.filter_cons, hguard]
        rfl
      · unfold GuardTree.nodesOfAll
        rw [Registry.marked_append]
        exact List.rel_append hworks hrestworks

/-- **What one guard contributes**: an instance for each marked node of the tree that
    unfolds it, in the order of the nodes. The induction is on the depth; one level
    is the guard's own instance, and then the forest of the guards on its type. -/
theorem exists_tree (above : List Annotation) (hguard : c.registry.isGuard a.type = true)
    (hok : (contribute c target depth (c.registry.pathOf above) a).result = .ok ()) :
    ∃ tree : GuardTree, tree.root = a ∧ c.registry.Unfolds tree ∧
      List.Forall₂ (fun n g => g.WorksAt c target n) (c.registry.marked (tree.nodes above))
        (contribute c target depth (c.registry.pathOf above) a).instances := by
  induction depth generalizing above a with
  | zero => cases hok
  | succ depth ih =>
    cases hdef : c.registry.definition c.config a.type with
    | error e =>
      rw [contribute_of_faulty hdef] at hok
      cases hok
    | ok found =>
      cases found with
      | none =>
        have hnot := Registry.definition_eq_none_iff.mp hdef
        rw [Registry.isGuard_iff.mp hguard] at hnot
        cases hnot
      | some d =>
        obtain ⟨-, himplied, -⟩ := Registry.definition_eq_some hdef
        have hpath : c.registry.pathOf above ++ ["@" ++ c.registry.simpleName a.type] =
            c.registry.pathOf (above ++ [a]) := by
          simp [Registry.pathOf]
        rw [contribute_of_definition hdef, hpath] at hok ⊢
        obtain ⟨_, hown, hrest, hinstances⟩ := Contribution.bind_eq_ok hok
        obtain ⟨below, hforest, hbelow⟩ := exists_forest_of_trees (fun b hb hbok => ih (above ++ [a]) hb hbok) hrest
        rw [himplied] at hforest
        refine ⟨.node a below, rfl, .node ?_ hforest.unfolds, ?_⟩
        · rw [hforest.roots, Registry.filter_impliedOf]
        · have hnodes : (GuardTree.node a below).nodes above =
              [⟨above, a⟩] ++ GuardTree.nodesOfAll (above ++ [a]) below := rfl
          rw [hinstances, hnodes, Registry.marked_append]
          exact List.rel_append (contributeOwn_worksAt hdef hown) hbelow

/-- **What a slot links to**: an instance for each marked node of the forest of its
    annotations, in the order of the nodes. -/
theorem exists_forest {guards : SlotGuards} {chain : List (GuardInstance σ)}
    (h : outcome c guards = .ok (.linked chain)) :
    ∃ forest, c.registry.IsForest guards.annotations forest ∧
      List.Forall₂ (fun n g => g.WorksAt c guards.target n)
        (c.registry.marked (GuardTree.nodesOfAll [] forest)) chain := by
  rcases settle_eq_ok h with ⟨hok, hchain⟩ | ⟨-, reason, hdisabled⟩
  · cases hchain
    exact exists_forest_of_trees (fun a hguard hok => exists_tree [] hguard hok) hok
  · cases hdisabled

/-- Every instance of a chain is the one for some node. -/
theorem exists_worksAt {guards : SlotGuards} {chain : List (GuardInstance σ)}
    (h : outcome c guards = .ok (.linked chain)) {g : GuardInstance σ} (hg : g ∈ chain) :
    ∃ n, g.WorksAt c guards.target n := by
  obtain ⟨forest, -, hworks⟩ := exists_forest h
  exact exists_of_forall₂ hworks hg

end Link

end AnnotationGuards
