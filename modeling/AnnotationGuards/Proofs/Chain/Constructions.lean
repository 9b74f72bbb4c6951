import AnnotationGuards.Proofs.Chain.Faults
import AnnotationGuards.Proofs.Handler.Wiring

/-! # The constructor runs of a link

    A link builds a handler for each marked node of the forest that it walks through,
    in the order of the nodes, until it ends. Each of these handlers comes from a
    constructor run of its own: the handlers of a chain and the constructor runs of
    the link correspond one to one.

    * `Construction`: a constructor run for a guard.
    * `Link.Constructs`: the constructor runs that a part of a link consists of.
      `Link.Constructs.bind`: one part after the other.
    * `Link.exists_constructions`: those of the link of a slot, by induction along the
      trees of its forest. -/

namespace AnnotationGuards

variable {σ : Type} {c : LinkContext σ} {type : GenericType} {target : Target} {a : Annotation}

/-! ## One constructor run -/

/-- A constructor run for the guard of a node. -/
structure Construction (σ : Type) where
  node : GuardNode
  /-- The handler class with the constructor that runs. -/
  instantiator : Instantiator σ
  arguments : List Injected

namespace Construction

/-- The run on record. -/
def call (k : Construction σ) : Call := .built k.instantiator.constructor.label k.arguments

/-- What the run comes to. -/
def result (k : Construction σ) : Except Panic (Except String σ) :=
  k.instantiator.constructor.build k.arguments

/-- The run is the one that the guard of its node asks for on a target of the type: that
    of the handler class named by the guard's marker, with the arguments for the
    annotation. -/
def IsProper (c : LinkContext σ) (type : GenericType) (k : Construction σ) : Prop :=
  ∃ d marking, c.registry.definition c.config k.node.annotation.type = .ok (some d) ∧
    d.marking = some marking ∧ Instantiator.make c.registry marking.handler = .ok k.instantiator ∧
    Instantiator.arguments c.registry k.instantiator.handlerName k.node.annotation type
      k.instantiator.wiring = .ok k.arguments

/-- The instance is the one for the node of the run, and the run has built its handler. -/
structure Made (k : Construction σ) (g : GuardInstance σ) : Prop where
  annotation_eq : g.annotation = k.node.annotation
  result_eq : k.result = .ok (.ok g.handler)

end Construction

namespace Link

/-! ## Parts of a link -/

/-- A part of a link that goes through these marked nodes consists of these constructor
    runs: one for each node, in order, up to where the part ends. If the part does not
    end early, it has come to all nodes, and its instances have the handlers that have
    been built. If it ends with a panic, a constructor has panicked. -/
structure Constructs (c : LinkContext σ) (type : GenericType) (nodes : List GuardNode)
    (part : Contribution σ Unit) (runs : List (Construction σ)) : Prop where
  calls_eq : part.calls = runs.map Construction.call
  proper : ∀ k ∈ runs, k.IsProper c type
  nodes_eq : ∃ unbuilt, nodes = runs.map Construction.node ++ unbuilt ∧
    (part.result = .ok () → unbuilt = [])
  made : part.result = .ok () → List.Forall₂ Construction.Made runs part.instances
  panicked : ∀ payload, part.result = .error (.aborted (.panicked payload)) →
    ∃ k ∈ runs, k.result = .error payload

variable {nodes rest : List GuardNode} {part next : Contribution σ Unit}
  {runs later : List (Construction σ)}

theorem constructs_pure (c : LinkContext σ) (type : GenericType) :
    Constructs c type [] (pure ()) [] where
  calls_eq := rfl
  proper := by simp
  nodes_eq := ⟨[], rfl, fun _ => rfl⟩
  made := fun _ => .nil
  panicked := by
    intro payload h
    cases h

/-- A part that ends before it has run a constructor, and not with a panic. -/
theorem constructs_of_fault {fault : LinkFault} (hcalls : part.calls = [])
    (hresult : part.result = .error fault)
    (hfault : ∀ payload, fault ≠ .aborted (.panicked payload)) (nodes : List GuardNode) :
    Constructs c type nodes part [] where
  calls_eq := hcalls
  proper := by simp
  nodes_eq := by
    refine ⟨nodes, rfl, ?_⟩
    intro hok
    rw [hresult] at hok
    cases hok
  made := by
    intro hok
    rw [hresult] at hok
    cases hok
  panicked := by
    intro payload hpanic
    rw [hresult] at hpanic
    exact absurd (Except.error.inj hpanic) (hfault payload)

theorem constructs_of_misconfigured {e : GuardError} (hcalls : part.calls = [])
    (hresult : part.result = .error (.misconfigured e)) (nodes : List GuardNode) :
    Constructs c type nodes part [] := by
  apply constructs_of_fault hcalls hresult
  intro payload h
  cases h

/-- A part that runs one constructor. -/
theorem constructs_of_run {k : Construction σ} (hproper : k.IsProper c type)
    (hcalls : part.calls = [k.call])
    (hmade : part.result = .ok () → ∃ g, part.instances = [g] ∧ k.Made g)
    (hpanicked : ∀ payload, part.result = .error (.aborted (.panicked payload)) →
      k.result = .error payload) : Constructs c type [k.node] part [k] where
  calls_eq := hcalls
  proper := by
    intro k' hk'
    rw [List.mem_singleton.mp hk']
    exact hproper
  nodes_eq := ⟨[], rfl, fun _ => rfl⟩
  made := by
    intro hok
    obtain ⟨g, hinstances, hg⟩ := hmade hok
    rw [hinstances]
    exact .cons hg .nil
  panicked := by
    intro payload hpanic
    exact ⟨k, List.mem_singleton_self k, hpanicked payload hpanic⟩

/-- **One part after the other.** The runs of the second part follow those of the first one,
    if there is a second part at all. -/
theorem Constructs.bind (h : Constructs c type nodes part runs)
    (hnext : part.result = .ok () → ∃ later, Constructs c type rest next later) :
    ∃ all, Constructs c type (nodes ++ rest) (part >>= fun _ => next) all := by
  obtain ⟨unbuilt, hnodes, hall⟩ := h.nodes_eq
  cases hresult : part.result with
  | error fault =>
    refine ⟨runs, ?_⟩
    rw [Contribution.bind_of_error hresult]
    refine ⟨h.calls_eq, h.proper, ⟨unbuilt ++ rest, ?_, ?_⟩, ?_, ?_⟩
    · rw [hnodes, List.append_assoc]
    · intro hok
      cases hok
    · intro hok
      cases hok
    · intro payload hpanic
      exact h.panicked payload (hresult.trans hpanic)
  | ok _ =>
    obtain ⟨later, hlater⟩ := hnext hresult
    obtain ⟨unbuilt', hrest, hall'⟩ := hlater.nodes_eq
    refine ⟨runs ++ later, ?_⟩
    rw [Contribution.bind_of_ok hresult]
    refine ⟨?_, ?_, ⟨unbuilt', ?_, hall'⟩, ?_, ?_⟩
    · rw [h.calls_eq, hlater.calls_eq, List.map_append]
    · intro k hk
      rcases List.mem_append.mp hk with hk | hk
      · exact h.proper k hk
      · exact hlater.proper k hk
    · rw [hnodes, hall hresult, hrest, List.append_nil, List.map_append, List.append_assoc]
    · intro hok
      exact List.rel_append (h.made hresult) (hlater.made hok)
    · intro payload hpanic
      obtain ⟨k, hk, hresult⟩ := hlater.panicked payload hpanic
      exact ⟨k, List.mem_append_right _ hk, hresult⟩

/-! ## The part of one guard -/

/-- A guard that carries the marker runs one constructor, unless there is a fault before. -/
theorem exists_constructs_instance {d : GuardDefinition} {marking : Marking}
    (hdef : c.registry.definition c.config a.type = .ok (some d))
    (hmarking : d.marking = some marking)
    (path : List String) (above : List Annotation) :
    ∃ runs, Constructs c target.type [⟨above, a⟩] (contributeInstance c target path a d marking)
      runs := by
  unfold contributeInstance
  cases MatchedTest.find c.registry d.name marking.testsNull marking.handler target.type with
  | error e => exact ⟨[], constructs_of_misconfigured rfl rfl _⟩
  | ok test =>
    cases hmake : Instantiator.make c.registry marking.handler with
    | error e => exact ⟨[], constructs_of_misconfigured rfl rfl _⟩
    | ok i =>
      simp only [Contribution.ofResult_ok_bind]
      unfold Instantiator.instantiate
      cases harguments : Instantiator.arguments c.registry i.handlerName a target.type i.wiring with
      | error e => exact ⟨[], constructs_of_misconfigured rfl rfl _⟩
      | ok injected =>
        -- The one run of the constructor. Only a handler is followed by a message.
        have hproper : Construction.IsProper c target.type ⟨⟨above, a⟩, i, injected⟩ :=
          ⟨d, marking, hdef, hmarking, hmake, harguments⟩
        refine ⟨[⟨⟨above, a⟩, i, injected⟩], constructs_of_run hproper ?_ ?_ ?_⟩
        all_goals
          unfold Constructor.run
          dsimp only
          rcases hbuilt : i.constructor.build injected with payload | (reason | state)
        · cases c.config.containPanics <;> rfl
        · rfl
        · cases message? c.registry marking a <;> rfl
        · intro hok
          cases hcontain : c.config.containPanics
          all_goals rw [hcontain] at hok; cases hok
        · intro hok
          cases hok
        · intro hok
          cases hmessage : message? c.registry marking a with
          | none => rw [hmessage] at hok; cases hok
          | some message => exact ⟨_, rfl, rfl, hbuilt⟩
        · intro payload' hpanic
          cases hcontain : c.config.containPanics with
          | true => rw [hcontain] at hpanic; cases hpanic
          | false => rw [hcontain] at hpanic; cases hpanic; exact hbuilt
        · intro payload' hpanic
          cases hpanic
        · intro payload' hpanic
          cases hmessage : message? c.registry marking a
          all_goals rw [hmessage] at hpanic; cases hpanic

/-- The part of any guard: it runs a constructor only if the guard carries the marker. -/
theorem exists_constructs_own {d : GuardDefinition}
    (hdef : c.registry.definition c.config a.type = .ok (some d)) (path : List String)
    (above : List Annotation) :
    ∃ runs, Constructs c target.type (c.registry.marked [⟨above, a⟩])
      (contributeOwn c target path a d) runs := by
  obtain ⟨-, -, hmarking⟩ := Registry.definition_eq_some hdef
  unfold contributeOwn
  cases hd : d.marking with
  | none =>
    have hnot : ¬ c.registry.Marked a.type := by simpa [hd] using hmarking
    have hnone : c.registry.marked [⟨above, a⟩] = [] := by simp [Registry.marked, hnot]
    rw [hnone]
    exact ⟨[], constructs_pure c target.type⟩
  | some marking =>
    have hmarked : c.registry.Marked a.type := by simpa [hd] using hmarking
    have hone : c.registry.marked [⟨above, a⟩] = [⟨above, a⟩] := by
      simp [Registry.marked, hmarked]
    rw [hone]
    exact exists_constructs_instance hdef hd path above

/-! ## The walk -/

variable {path : List String} {above : List Annotation} {depth : Nat}

/-- The roots of a forest one after the other, if each tree consists of constructor runs. -/
theorem exists_constructs_forM {forest : List GuardTree}
    (h : ∀ tree ∈ forest, ∃ runs, Constructs c target.type
      (c.registry.marked (tree.nodes above)) (contribute c target depth path tree.root) runs) :
    ∃ runs, Constructs c target.type (c.registry.marked (GuardTree.nodesOfAll above forest))
      ((forest.map GuardTree.root).forM (contribute c target depth path)) runs := by
  induction forest with
  | nil => exact ⟨[], constructs_pure c target.type⟩
  | cons tree forest ih =>
    obtain ⟨⟨runs, hruns⟩, hforest⟩ := List.forall_mem_cons.mp h
    unfold GuardTree.nodesOfAll
    rw [Registry.marked_append]
    exact hruns.bind fun _ => ih hforest

/-- **What an annotation contributes** consists of constructor runs for the marked nodes of
    its tree. The induction is along the tree; one node is the guard's own part, and
    then come the trees below it. -/
theorem exists_constructs_contribute {tree : GuardTree} (hunfolds : c.registry.Unfolds tree)
    (hlike : c.registry.isGuardLike tree.root = true) :
    ∃ runs, Constructs c target.type (c.registry.marked (tree.nodes above))
      (contribute c target depth path tree.root) runs := by
  induction hunfolds generalizing depth path above with
  | @node root below hroots _ ih =>
    have hroot : (GuardTree.node root below).root = root := rfl
    rw [hroot] at hlike ⊢
    cases depth with
    | zero =>
      refine ⟨[], constructs_of_fault rfl rfl ?_ _⟩
      intro payload h
      cases h
    | succ depth =>
      cases hdef : c.registry.definition c.config root.type with
      | error e =>
        rw [contribute_of_faulty hdef]
        exact ⟨[], constructs_of_misconfigured rfl rfl _⟩
      | ok found =>
        cases found with
        | none =>
          have hclass := Registry.definition_eq_none_iff.mp hdef
          rw [Registry.isGuardLike_eq_false_iff.mpr hclass] at hlike
          cases hlike
        | some d =>
          obtain ⟨-, himplied, -⟩ := Registry.definition_eq_some hdef
          have hnodes : (GuardTree.node root below).nodes above =
              [⟨above, root⟩] ++ GuardTree.nodesOfAll (above ++ [root]) below := rfl
          rw [contribute_of_definition hdef, hnodes, Registry.marked_append, himplied, ← hroots]
          obtain ⟨runs, hruns⟩ := exists_constructs_own hdef
            (path ++ ["@" ++ c.registry.simpleName root.type]) above
          refine hruns.bind fun _ => exists_constructs_forM fun tree htree => ?_
          have hmem : tree.root ∈ c.registry.impliedOf root.type := by
            rw [← hroots]
            exact List.mem_map_of_mem htree
          exact ih tree htree (Registry.isGuardLike_of_mem_impliedOf hmem)

/-- **The constructor runs of a link**: one for each marked node of the forest of the
    slot's annotations, in order, up to where the link ends. -/
theorem exists_constructions {guards : SlotGuards} {forest : List GuardTree}
    (hforest : c.registry.IsWalked guards.annotations forest) :
    ∃ runs, Constructs c guards.target.type (c.registry.marked (GuardTree.nodesOfAll [] forest))
      (contributeAll c guards) runs := by
  rw [contributeAll_eq_filter, ← hforest.roots]
  refine exists_constructs_forM fun tree htree => ?_
  have hmem : tree.root ∈ guards.annotations.filter c.registry.isGuardLike := by
    rw [← hforest.roots]
    exact List.mem_map_of_mem htree
  exact exists_constructs_contribute (hforest.unfolds tree htree) (List.mem_filter.mp hmem).2

end Link

end AnnotationGuards
