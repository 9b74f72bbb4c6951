import AnnotationGuards.Guard.MetaGraph
import AnnotationGuards.Proofs.Graph.CycleWalk

/-! # The meta graph holds what can be reached

    The work list that builds a meta graph and the queue that spreads being a
    guard are compared with the relation that they compute with.

    * `Registry.MetaStep`: an annotation type carries another one as a meta.
    * `Registry.LeadsToMarked`: following metas, a marked type is met.
    * `MetaGraph.readsTo_build`: the work list is read to its end, however
      long that takes.
    * `MetaGraph.build_spans`: the graph has exactly the reachable types as
      nodes, and exactly the steps from them as edges.
    * `MetaGraph.Spans.mem_guards`: its guards are exactly the nodes that
      lead to a marked type.
    * `MetaGraph.Spans.guardCycle_ne_none_iff`: the walk decides whether a
      cycle of guards can be reached. -/

namespace AnnotationGuards

open Relation

variable {σ : Type}

/-! ## Metas as a relation -/

namespace Registry

/-- The type carries the guard marker. -/
def Marked (r : Registry σ) (t : TypeId) : Prop :=
  ∃ a ∈ r.metas t, a.type = .guardMarker

/-- The annotation type `t` carries a meta of the annotation type `m`, which is
    neither the guard marker nor one of the language's own metas. -/
def MetaStep (r : Registry σ) (t m : TypeId) : Prop :=
  r.isAnnotation t = true ∧ (∃ a ∈ r.metas t, a.type = m) ∧ r.isAnnotation m = true ∧
    m ≠ .guardMarker ∧ m ∉ TypeId.languageMetas

/-- Following metas from the type, in zero or more steps, a marked type is met. -/
def LeadsToMarked (r : Registry σ) (t : TypeId) : Prop :=
  ∃ m, ReflTransGen r.MetaStep t m ∧ r.Marked m

variable {r : Registry σ} {t m : TypeId}

theorem isAnnotation_of_mem_metas {a : Annotation} (h : a ∈ r.metas t) :
    r.isAnnotation t = true := by
  unfold metas at h
  unfold isAnnotation
  cases hd : r.annotation? t with
  | none => rw [hd] at h; exact absurd h List.not_mem_nil
  | some d => rfl

theorem isMetaEdge_iff : r.isMetaEdge m = true ↔
    r.isAnnotation m = true ∧ m ≠ .guardMarker ∧ m ∉ TypeId.languageMetas := by
  simp [isMetaEdge, TypeId.isLanguageMeta, and_assoc, and_comm]

theorem metaStep_iff :
    r.MetaStep t m ↔ (∃ a ∈ r.metas t, a.type = m) ∧ r.isMetaEdge m = true := by
  rw [isMetaEdge_iff]
  constructor
  · intro ⟨_, ha, hm⟩
    exact ⟨ha, hm⟩
  · intro ⟨⟨a, ha, hm⟩, hedge⟩
    exact ⟨isAnnotation_of_mem_metas ha, ⟨a, ha, hm⟩, hedge⟩

theorem LeadsToMarked.of_reach (h : r.LeadsToMarked m) (htm : ReflTransGen r.MetaStep t m) :
    r.LeadsToMarked t := by
  obtain ⟨k, hmk, hk⟩ := h
  exact ⟨k, htm.trans hmk, hk⟩

/-- The identity of an annotation type is one of the registered ones. -/
theorem mem_ids_of_isAnnotation (h : r.isAnnotation t = true) : t ∈ r.ids := by
  obtain ⟨a, ha⟩ := Option.isSome_iff_exists.mp h
  obtain ⟨d, hget, -⟩ := Option.bind_eq_some_iff.mp ha
  exact mem_ids_of_get? hget

theorem reach_cases (h : ReflTransGen r.MetaStep t m) : m = t ∨ r.isAnnotation m = true := by
  rcases ReflTransGen.cases_tail h with rfl | ⟨k, -, hkm⟩
  · exact Or.inl rfl
  · exact Or.inr hkm.2.2.1

end Registry

/-! ## Small facts on graphs -/

namespace MetaGraph

variable {r : Registry σ} {origin : TypeId}

theorem mem_metasOf {g : MetaGraph} {n m : TypeId} : m ∈ g.metasOf n ↔ (m, n) ∈ g.edges := by
  simp [metasOf]

theorem mem_carriersOf {g : MetaGraph} {n m : TypeId} : n ∈ g.carriersOf m ↔ (m, n) ∈ g.edges := by
  simp [carriersOf]

theorem nodup_carriersOf {g : MetaGraph} (h : g.edges.Nodup) (m : TypeId) :
    (g.carriersOf m).Nodup := by
  refine List.Nodup.map_on ?_ (h.filter _)
  intro ⟨a, b⟩ hab ⟨a', b'⟩ hab' heq
  simp only [List.mem_filter, decide_eq_true_eq] at hab hab'
  simp only [Prod.mk.injEq]
  exact ⟨hab.2.trans hab'.2.symm, heq⟩

theorem mem_edges_addEdge {g : MetaGraph} {m n : TypeId} {e : TypeId × TypeId} :
    e ∈ (g.addEdge m n).edges ↔ e = (m, n) ∨ e ∈ g.edges := by
  unfold addEdge
  split
  · next h =>
    constructor
    · exact Or.inr
    · intro he
      rcases he with rfl | he
      · exact h
      · exact he
  · exact List.mem_cons

theorem nodup_edges_addEdge {g : MetaGraph} (h : g.edges.Nodup) (m n : TypeId) :
    (g.addEdge m n).edges.Nodup := by
  unfold addEdge
  split
  · exact h
  · next hnew => exact List.nodup_cons.mpr ⟨hnew, h⟩

@[simp] theorem nodes_addEdge (g : MetaGraph) (m n : TypeId) :
    (g.addEdge m n).nodes = g.nodes := by
  unfold addEdge; split <;> rfl

@[simp] theorem marked_addEdge (g : MetaGraph) (m n : TypeId) :
    (g.addEdge m n).marked = g.marked := by
  unfold addEdge; split <;> rfl

theorem mem_marked_mark {g : MetaGraph} {node n : TypeId} :
    n ∈ (g.mark node).marked ↔ n = node ∨ n ∈ g.marked := by
  unfold mark
  split
  · next h =>
    constructor
    · exact Or.inr
    · intro hn
      rcases hn with rfl | hn
      · exact h
      · exact hn
  · simp [or_comm]

@[simp] theorem nodes_mark (g : MetaGraph) (node : TypeId) : (g.mark node).nodes = g.nodes := by
  unfold mark; split <;> rfl

@[simp] theorem edges_mark (g : MetaGraph) (node : TypeId) : (g.mark node).edges = g.edges := by
  unfold mark; split <;> rfl

theorem nodup_marked_mark {g : MetaGraph} (h : g.marked.Nodup) (node : TypeId) :
    (g.mark node).marked.Nodup := by
  unfold mark
  split
  · exact h
  · next hnew =>
    show (g.marked ++ [node]).Nodup
    rw [← List.concat_eq_append]
    exact h.concat hnew

/-! ## Building the graph -/

/-- What a meta leaves in the graph once it has been read. -/
def Entered (r : Registry σ) (g : MetaGraph) (n : TypeId) (a : Annotation) : Prop :=
  (a.type = .guardMarker → n ∈ g.marked) ∧
    (r.isMetaEdge a.type = true → (a.type, n) ∈ g.edges)

/-- A graph grows: nothing that it holds is lost. -/
structure Grows (g g' : MetaGraph) : Prop where
  nodes : ∀ n ∈ g.nodes, n ∈ g'.nodes
  edges : ∀ e ∈ g.edges, e ∈ g'.edges
  marked : ∀ n ∈ g.marked, n ∈ g'.marked

theorem Grows.refl (g : MetaGraph) : Grows g g :=
  ⟨fun _ h => h, fun _ h => h, fun _ h => h⟩

theorem Grows.trans {g g' g'' : MetaGraph} (h : Grows g g') (h' : Grows g' g'') : Grows g g'' :=
  ⟨fun n hn => h'.nodes n (h.nodes n hn), fun e he => h'.edges e (h.edges e he),
    fun n hn => h'.marked n (h.marked n hn)⟩

theorem grows_addEdge (g : MetaGraph) (m n : TypeId) : Grows g (g.addEdge m n) where
  nodes := by simp
  edges := fun _ he => mem_edges_addEdge.mpr (Or.inr he)
  marked := by simp

theorem grows_mark (g : MetaGraph) (node : TypeId) : Grows g (g.mark node) where
  nodes := by simp
  edges := by simp
  marked := fun _ hn => mem_marked_mark.mpr (Or.inr hn)

theorem Entered.grows {g g' : MetaGraph} {n : TypeId} {a : Annotation} (h : Entered r g n a)
    (hg : Grows g g') : Entered r g' n a :=
  ⟨fun ha => hg.marked n (h.1 ha), fun ha => hg.edges _ (h.2 ha)⟩

namespace Draft

/-- What holds of a graph under construction. The metas of all nodes have been
    entered, but for the pending ones and those of `reading`. -/
structure Sound (r : Registry σ) (origin : TypeId) (reading : List TypeId) (d : Draft) : Prop where
  origin_mem : origin ∈ d.graph.nodes
  nodes_nodup : d.graph.nodes.Nodup
  edges_nodup : d.graph.edges.Nodup
  marked_nodup : d.graph.marked.Nodup
  reached : ∀ n ∈ d.graph.nodes, ReflTransGen r.MetaStep origin n
  edge : ∀ e ∈ d.graph.edges, e.2 ∈ d.graph.nodes ∧ e.1 ∈ d.graph.nodes ∧ r.MetaStep e.2 e.1
  mark : ∀ n ∈ d.graph.marked, n ∈ d.graph.nodes ∧ r.Marked n
  pending : ∀ n ∈ d.pending, n ∈ d.graph.nodes
  entered : ∀ n ∈ d.graph.nodes,
    n ∈ reading ∨ n ∈ d.pending ∨ ∀ a ∈ r.metas n, Entered r d.graph n a

variable {d : Draft} {current : TypeId} {reading : List TypeId}

theorem sound_start (r : Registry σ) (origin : TypeId) :
    Sound r origin [] ⟨{ nodes := [origin] }, [origin]⟩ where
  origin_mem := List.mem_singleton_self origin
  nodes_nodup := List.nodup_singleton origin
  edges_nodup := List.nodup_nil
  marked_nodup := List.nodup_nil
  reached := fun n hn => by rw [List.mem_singleton.mp hn]
  edge := fun _ h => absurd h List.not_mem_nil
  mark := fun _ h => absurd h List.not_mem_nil
  pending := fun _ h => h
  entered := fun _ h => Or.inr (Or.inl h)

/-- What has been entered for a node stays so while the graph grows and nothing is
    taken off the list. -/
theorem Sound.entered_of_grows (h : Sound r origin reading d) {graph : MetaGraph}
    {pending : List TypeId} (hgrows : Grows d.graph graph)
    (hpending : ∀ n ∈ d.pending, n ∈ pending) {n : TypeId} (hn : n ∈ d.graph.nodes) :
    n ∈ reading ∨ n ∈ pending ∨ ∀ a ∈ r.metas n, Entered r graph n a := by
  rcases h.entered n hn with hr | hp | he
  · exact Or.inl hr
  · exact Or.inr (Or.inl (hpending n hp))
  · exact Or.inr (Or.inr fun a ha => (he a ha).grows hgrows)

/-- A type that can be reached may be made a node. -/
theorem Sound.addNode (h : Sound r origin reading d) {m : TypeId}
    (hm : ReflTransGen r.MetaStep origin m) : Sound r origin reading (d.addNode m) := by
  unfold Draft.addNode
  split
  · exact h
  · next hnew =>
    have hkeep : ∀ n ∈ d.graph.nodes, n ∈ d.graph.nodes ++ [m] :=
      fun n hn => List.mem_append_left _ hn
    have hgrows : Grows d.graph { d.graph with nodes := d.graph.nodes ++ [m] } :=
      ⟨hkeep, fun _ he => he, fun _ hk => hk⟩
    have hself : m ∈ d.graph.nodes ++ [m] := List.mem_append_right _ (List.mem_singleton_self m)
    refine {
      origin_mem := hkeep _ h.origin_mem
      nodes_nodup := by
        show (d.graph.nodes ++ [m]).Nodup
        rw [← List.concat_eq_append]
        exact h.nodes_nodup.concat hnew
      edges_nodup := h.edges_nodup
      marked_nodup := h.marked_nodup
      reached := ?_
      edge := fun e he => ⟨hkeep _ (h.edge e he).1, hkeep _ (h.edge e he).2.1, (h.edge e he).2.2⟩
      mark := fun n hn => ⟨hkeep _ (h.mark n hn).1, (h.mark n hn).2⟩
      pending := ?_
      entered := ?_ }
    · intro n hn
      rcases List.mem_append.mp hn with hn | hn
      · exact h.reached n hn
      · rw [List.mem_singleton.mp hn]; exact hm
    · intro n hn
      rcases List.mem_cons.mp hn with rfl | hn
      · exact hself
      · exact hkeep n (h.pending n hn)
    · intro n hn
      rcases List.mem_append.mp hn with hn | hn
      · exact h.entered_of_grows hgrows (fun n hp => List.mem_cons_of_mem m hp) hn
      · -- The new node has yet to be read.
        rw [List.mem_singleton.mp hn]
        exact Or.inr (Or.inl (List.mem_cons_self ..))

theorem mem_addNode (d : Draft) (m : TypeId) : m ∈ (d.addNode m).graph.nodes := by
  unfold Draft.addNode
  split
  · next h => exact h
  · exact List.mem_append_right _ (List.mem_singleton_self m)

theorem grows_addNode (d : Draft) (m : TypeId) : Grows d.graph (d.addNode m).graph := by
  unfold Draft.addNode
  split
  · exact Grows.refl _
  · exact ⟨fun n hn => List.mem_append_left _ hn, fun _ he => he, fun _ hn => hn⟩

/-- Every node that is added becomes pending. -/
theorem length_addNode (d : Draft) (m : TypeId) :
    (d.addNode m).graph.nodes.length + d.pending.length =
      d.graph.nodes.length + (d.addNode m).pending.length := by
  unfold Draft.addNode
  split
  · rfl
  · simp only [List.length_append, List.length_cons, List.length_nil]
    omega

/-- A step that the metas allow may be made an edge between nodes. -/
theorem Sound.addEdge (h : Sound r origin reading d) {m n : TypeId} (hm : m ∈ d.graph.nodes)
    (hn : n ∈ d.graph.nodes) (hstep : r.MetaStep n m) :
    Sound r origin reading { d with graph := d.graph.addEdge m n } := by
  have hgrows := grows_addEdge d.graph m n
  exact {
    origin_mem := hgrows.nodes _ h.origin_mem
    nodes_nodup := by simpa using h.nodes_nodup
    edges_nodup := nodup_edges_addEdge h.edges_nodup m n
    marked_nodup := by simpa using h.marked_nodup
    reached := by simpa using h.reached
    edge := by
      intro e he
      rcases mem_edges_addEdge.mp he with rfl | he
      · exact ⟨hgrows.nodes _ hn, hgrows.nodes _ hm, hstep⟩
      · have hold := h.edge e he
        exact ⟨hgrows.nodes _ hold.1, hgrows.nodes _ hold.2.1, hold.2.2⟩
    mark := by simpa using h.mark
    pending := by simpa using h.pending
    entered := by
      intro k hk
      have hk' : k ∈ d.graph.nodes := by simpa using hk
      exact h.entered_of_grows hgrows (fun _ hp => hp) hk' }

/-- A node that carries the marker may be marked. -/
theorem Sound.addMark (h : Sound r origin reading d) {n : TypeId} (hn : n ∈ d.graph.nodes)
    (hmarked : r.Marked n) : Sound r origin reading { d with graph := d.graph.mark n } := by
  have hgrows := grows_mark d.graph n
  exact {
    origin_mem := hgrows.nodes _ h.origin_mem
    nodes_nodup := by simpa using h.nodes_nodup
    edges_nodup := by simpa using h.edges_nodup
    marked_nodup := nodup_marked_mark h.marked_nodup n
    reached := by simpa using h.reached
    edge := by simpa using h.edge
    mark := by
      intro k hk
      rcases mem_marked_mark.mp hk with rfl | hk
      · exact ⟨hgrows.nodes _ hn, hmarked⟩
      · exact ⟨hgrows.nodes _ (h.mark k hk).1, (h.mark k hk).2⟩
    pending := by simpa using h.pending
    entered := by
      intro k hk
      have hk' : k ∈ d.graph.nodes := by simpa using hk
      exact h.entered_of_grows hgrows (fun _ hp => hp) hk' }

/-- What reading one meta of `current` does to a sound draft. -/
structure Reads (r : Registry σ) (origin current : TypeId) (d : Draft) (read : List Annotation)
    (d' : Draft) : Prop where
  sound : Sound r origin [current] d'
  grows : Grows d.graph d'.graph
  entered : ∀ a ∈ read, Entered r d'.graph current a
  length : d'.graph.nodes.length + d.pending.length = d.graph.nodes.length + d'.pending.length

theorem reads_readMeta (h : Sound r origin [current] d) (hcurrent : current ∈ d.graph.nodes)
    {a : Annotation} (ha : a ∈ r.metas current) :
    Reads r origin current d [a] (readMeta r current d a) := by
  -- A marker, an edge to another type, or nothing at all.
  unfold readMeta
  by_cases hmarker : a.type = .guardMarker
  · rw [if_pos hmarker]
    exact {
      sound := h.addMark hcurrent ⟨a, ha, hmarker⟩
      grows := grows_mark d.graph current
      entered := by
        intro b hb
        rw [List.mem_singleton.mp hb]
        refine ⟨fun _ => mem_marked_mark.mpr (Or.inl rfl), fun hedge => ?_⟩
        exact absurd hmarker (Registry.isMetaEdge_iff.mp hedge).2.1
      length := by simp }
  · rw [if_neg hmarker]
    by_cases hedge : r.isMetaEdge a.type = true
    · rw [if_pos hedge]
      have hstep : r.MetaStep current a.type := Registry.metaStep_iff.mpr ⟨⟨a, ha, rfl⟩, hedge⟩
      have hadded := h.addNode ((h.reached current hcurrent).tail hstep)
      have hgrows := grows_addNode d a.type
      exact {
        sound := hadded.addEdge (mem_addNode d a.type) (hgrows.nodes _ hcurrent) hstep
        grows := hgrows.trans (grows_addEdge _ a.type current)
        entered := by
          intro b hb
          rw [List.mem_singleton.mp hb]
          exact ⟨fun hm => absurd hm hmarker, fun _ => mem_edges_addEdge.mpr (Or.inl rfl)⟩
        length := by simpa using length_addNode d a.type }
    · rw [if_neg hedge]
      exact {
        sound := h
        grows := Grows.refl _
        entered := by
          intro b hb
          rw [List.mem_singleton.mp hb]
          exact ⟨fun hm => absurd hm hmarker, fun he => absurd he hedge⟩
        length := rfl }

theorem Reads.trans {d' d'' : Draft} {read more : List Annotation}
    (h : Reads r origin current d read d') (h' : Reads r origin current d' more d'') :
    Reads r origin current d (read ++ more) d'' where
  sound := h'.sound
  grows := h.grows.trans h'.grows
  entered := by
    intro a ha
    rcases List.mem_append.mp ha with ha | ha
    · exact (h.entered a ha).grows h'.grows
    · exact h'.entered a ha
  length := by
    have := h.length
    have := h'.length
    omega

theorem reads_foldl (h : Sound r origin [current] d) (hcurrent : current ∈ d.graph.nodes)
    (metas : List Annotation) (hsub : ∀ a ∈ metas, a ∈ r.metas current) :
    Reads r origin current d metas (metas.foldl (readMeta r current) d) := by
  -- On the metas; `current` stays a node while they are read.
  induction metas generalizing d with
  | nil => exact ⟨h, Grows.refl _, fun _ ha => absurd ha List.not_mem_nil, rfl⟩
  | cons a rest ih =>
    have hfirst := reads_readMeta h hcurrent (hsub a (List.mem_cons_self ..))
    have hrest := ih hfirst.sound (hfirst.grows.nodes _ hcurrent)
      (fun b hb => hsub b (List.mem_cons_of_mem _ hb))
    exact hfirst.trans hrest

/-- A pending node may be taken off the list to be read. -/
theorem Sound.take {graph : MetaGraph} {pending : List TypeId}
    (h : Sound r origin [] ⟨graph, current :: pending⟩) : Sound r origin [current] ⟨graph, pending⟩ :=
  { h with
    pending := fun n hn => h.pending n (List.mem_cons_of_mem _ hn)
    entered := by
      intro n hn
      rcases h.entered n hn with hr | hp | he
      · exact absurd hr List.not_mem_nil
      · rcases List.mem_cons.mp hp with rfl | hp
        · exact Or.inl (List.mem_singleton_self n)
        · exact Or.inr (Or.inl hp)
      · exact Or.inr (Or.inr he) }

/-- A node whose metas have all been entered is done with. -/
theorem Sound.close (h : Sound r origin [current] d)
    (hread : ∀ a ∈ r.metas current, Entered r d.graph current a) : Sound r origin [] d :=
  { h with
    entered := by
      intro n hn
      rcases h.entered n hn with hr | hp | he
      · rw [List.mem_singleton.mp hr]
        exact Or.inr (Or.inr hread)
      · exact Or.inr (Or.inl hp)
      · exact Or.inr (Or.inr he) }

/-- All nodes but the first are registered annotation types. -/
theorem Sound.length_le (h : Sound r origin reading d) : d.graph.nodes.length ≤ r.size + 1 := by
  have hsub : d.graph.nodes ⊆ origin :: r.ids := by
    intro n hn
    rcases Registry.reach_cases (h.reached n hn) with rfl | hann
    · exact List.mem_cons_self ..
    · exact List.mem_cons_of_mem _ (Registry.mem_ids_of_isAnnotation hann)
  have hlen := (List.subperm_of_subset h.nodes_nodup hsub).length_le
  simpa [Registry.ids] using hlen

/-- Reading node after node, with no bound on how many there are: the graph that stands when
    nothing is pending any more. -/
inductive ReadsTo (r : Registry σ) : Draft → MetaGraph → Prop
  | done {graph : MetaGraph} : ReadsTo r ⟨graph, []⟩ graph
  | next {graph g : MetaGraph} {current : TypeId} {pending : List TypeId}
      (hrest : ReadsTo r ((r.metas current).foldl (readMeta r current) ⟨graph, pending⟩) g) :
      ReadsTo r ⟨graph, current :: pending⟩ g

theorem ReadsTo.unique {g g' : MetaGraph} (h : ReadsTo r d g) (h' : ReadsTo r d g') : g = g' := by
  induction h with
  | done =>
    cases h' with
    | done => rfl
  | next _ ih =>
    cases h' with
    | next hrest' => exact ih hrest'

/-- A node that is read leaves the draft sound, and leads to as many pending nodes as it adds
    to the graph. -/
theorem Sound.next {graph : MetaGraph} {pending : List TypeId}
    (h : Sound r origin [] ⟨graph, current :: pending⟩) :
    Reads r origin current ⟨graph, pending⟩ (r.metas current)
        ((r.metas current).foldl (readMeta r current) ⟨graph, pending⟩) ∧
      Sound r origin [] ((r.metas current).foldl (readMeta r current) ⟨graph, pending⟩) := by
  have hcurrent : current ∈ graph.nodes := h.pending current (List.mem_cons_self ..)
  have hreads := reads_foldl h.take hcurrent (r.metas current) (fun _ ha => ha)
  exact ⟨hreads, hreads.sound.close hreads.entered⟩

theorem ReadsTo.sound {g : MetaGraph} (h : ReadsTo r d g) (hsound : Sound r origin [] d) :
    Sound r origin [] ⟨g, []⟩ := by
  induction h with
  | done => exact hsound
  | next _ ih => exact ih hsound.next.2

/-- With enough fuel all is read that comes up. -/
theorem readsTo_readAll (fuel : Nat) (d : Draft) (h : Sound r origin [] d)
    (hfuel : r.size + 1 + d.pending.length ≤ fuel + d.graph.nodes.length) :
    ReadsTo r d (readAll r fuel d) := by
  -- A round takes one node off the list and puts on those that it adds to the graph,
  -- so what is pending and not yet a node goes down by one.
  induction fuel generalizing d with
  | zero =>
    -- All nodes there can be have been read.
    have hlen := h.length_le
    have hempty : d.pending = [] := List.eq_nil_of_length_eq_zero (by omega)
    obtain ⟨graph, pending⟩ := d
    simp only at hempty
    subst hempty
    exact .done
  | succ fuel ih =>
    obtain ⟨graph, _ | ⟨current, pending⟩⟩ := d
    · exact .done
    · obtain ⟨hreads, hsound⟩ := h.next
      refine .next (ih _ hsound ?_)
      have hlen := hreads.length
      simp only [List.length_cons] at hfuel hlen ⊢
      omega

end Draft

/-- The graph `g` is the meta graph around `origin`. -/
structure Spans (r : Registry σ) (origin : TypeId) (g : MetaGraph) : Prop where
  nodes_nodup : g.nodes.Nodup
  edges_nodup : g.edges.Nodup
  marked_nodup : g.marked.Nodup
  mem_nodes : ∀ n, n ∈ g.nodes ↔ ReflTransGen r.MetaStep origin n
  mem_edges : ∀ m n, (m, n) ∈ g.edges ↔ ReflTransGen r.MetaStep origin n ∧ r.MetaStep n m
  mem_marked : ∀ n, n ∈ g.marked ↔ ReflTransGen r.MetaStep origin n ∧ r.Marked n

/-- With nothing left to read, a sound draft is the whole graph. -/
theorem Draft.Sound.spans {g : MetaGraph} (h : Draft.Sound r origin [] ⟨g, []⟩) :
    Spans r origin g := by
  -- Nothing is being read and nothing is pending, so all metas have been entered.
  have hentered : ∀ n ∈ g.nodes, ∀ a ∈ r.metas n, Entered r g n a := by
    intro n hn
    rcases h.entered n hn with hr | hp | he
    · exact absurd hr List.not_mem_nil
    · exact absurd hp List.not_mem_nil
    · exact he
  have hedge : ∀ m n, n ∈ g.nodes → r.MetaStep n m → (m, n) ∈ g.edges := by
    intro m n hn hstep
    obtain ⟨⟨a, ha, rfl⟩, hm⟩ := Registry.metaStep_iff.mp hstep
    exact (hentered n hn a ha).2 hm
  have hnodes : ∀ n, ReflTransGen r.MetaStep origin n → n ∈ g.nodes := by
    intro n hreach
    induction hreach with
    | refl => exact h.origin_mem
    | tail _ hstep ih => exact (h.edge _ (hedge _ _ ih hstep)).2.1
  refine {
    nodes_nodup := h.nodes_nodup
    edges_nodup := h.edges_nodup
    marked_nodup := h.marked_nodup
    mem_nodes := fun n => ⟨h.reached n, hnodes n⟩
    mem_edges := fun m n => ⟨fun he => ?_, fun ⟨hreach, hstep⟩ => hedge m n (hnodes n hreach) hstep⟩
    mem_marked := fun n => ⟨fun hn => ?_, ?_⟩ }
  · exact ⟨h.reached n (h.edge _ he).1, (h.edge _ he).2.2⟩
  · exact ⟨h.reached n (h.mark n hn).1, (h.mark n hn).2⟩
  · intro ⟨hreach, a, ha, hmarker⟩
    exact (hentered n (hnodes n hreach) a ha).1 hmarker

theorem readsTo_build (r : Registry σ) (origin : TypeId) :
    Draft.ReadsTo r ⟨{ nodes := [origin] }, [origin]⟩ (build r origin) :=
  Draft.readsTo_readAll (r.size + 1) _ (Draft.sound_start r origin) (by simp)

/-- The graph that is built is the meta graph around its first node. -/
theorem build_spans (r : Registry σ) (origin : TypeId) : Spans r origin (build r origin) :=
  ((readsTo_build r origin).sound (Draft.sound_start r origin)).spans

namespace Spans

variable {g : MetaGraph}

/-! ## Guards -/

/-- What holds while being a guard spreads. All that carry a guard are guards
    as well, but for the carriers of the queued ones. -/
structure Spreading (r : Registry σ) (g : MetaGraph) (found queue : List TypeId) : Prop where
  nodup : found.Nodup
  queued : ∀ n ∈ queue, n ∈ found
  guard : ∀ n ∈ found, n ∈ g.nodes ∧ r.LeadsToMarked n
  marked : ∀ n ∈ g.marked, n ∈ found
  carriers : ∀ m ∈ found, m ∈ queue ∨ ∀ n, (m, n) ∈ g.edges → n ∈ found

theorem spreading_start (h : Spans r origin g) : Spreading r g g.marked g.marked where
  nodup := h.marked_nodup
  queued := fun _ hn => hn
  guard := by
    intro n hn
    have hmarked := (h.mem_marked n).mp hn
    exact ⟨(h.mem_nodes n).mpr hmarked.1, n, ReflTransGen.refl, hmarked.2⟩
  marked := fun _ hn => hn
  carriers := fun _ hm => Or.inl hm

/-- The carriers of one queued guard become guards. -/
theorem Spreading.next (h : Spans r origin g) {found queue : List TypeId} {node : TypeId}
    (hs : Spreading r g found (node :: queue)) {fresh : List TypeId}
    (hfresh : fresh = (g.carriersOf node).filter fun n => !found.contains n) :
    Spreading r g (found ++ fresh) (queue ++ fresh) := by
  have hmem : ∀ n, n ∈ fresh ↔ (node, n) ∈ g.edges ∧ n ∉ found := by
    intro n
    rw [hfresh, List.mem_filter, mem_carriersOf]
    simp
  refine {
    nodup := ?_, queued := ?_, guard := ?_, carriers := ?_
    marked := fun n hn => List.mem_append_left _ (hs.marked n hn) }
  · rw [List.nodup_append]
    refine ⟨hs.nodup, ?_, ?_⟩
    · rw [hfresh]
      exact (nodup_carriersOf h.edges_nodup node).filter _
    · intro n hn m hm hsame
      rw [← hsame] at hm
      exact ((hmem n).mp hm).2 hn
  · intro n hn
    rcases List.mem_append.mp hn with hn | hn
    · exact List.mem_append_left _ (hs.queued n (List.mem_cons_of_mem _ hn))
    · exact List.mem_append_right _ hn
  · intro n hn
    rcases List.mem_append.mp hn with hn | hn
    · exact hs.guard n hn
    · have hedge := (h.mem_edges node n).mp ((hmem n).mp hn).1
      have hnode := hs.guard node (hs.queued node (List.mem_cons_self ..))
      exact ⟨(h.mem_nodes n).mpr hedge.1, hnode.2.of_reach (ReflTransGen.single hedge.2)⟩
  · intro m hm
    have hold : ∀ n, n ∈ found ++ fresh ↔ n ∈ found ∨ n ∈ fresh := fun n => List.mem_append
    rcases List.mem_append.mp hm with hm | hm
    · rcases hs.carriers m hm with hq | hall
      · rcases List.mem_cons.mp hq with rfl | hq
        · -- The node that was taken off the queue: its carriers are all found now.
          refine Or.inr fun n hn => (hold n).mpr ?_
          by_cases hin : n ∈ found
          · exact Or.inl hin
          · exact Or.inr ((hmem n).mpr ⟨hn, hin⟩)
        · exact Or.inl (List.mem_append_left _ hq)
      · exact Or.inr fun n hn => (hold n).mpr (Or.inl (hall n hn))
    · exact Or.inl (List.mem_append_right _ hm)

/-- Spreading on with enough fuel ends with an empty queue. -/
theorem spreading_spread (h : Spans r origin g) (fuel : Nat) (found queue : List TypeId)
    (hs : Spreading r g found queue)
    (hfuel : g.nodes.length + queue.length ≤ fuel + found.length) :
    Spreading r g (g.spread fuel found queue) [] := by
  -- Each round takes one guard off the queue and queues as many as it finds.
  induction fuel generalizing found queue with
  | zero =>
    have hsub : found ⊆ g.nodes := fun n hn => (hs.guard n hn).1
    have hlen := (List.subperm_of_subset hs.nodup hsub).length_le
    have hempty : queue = [] := List.eq_nil_of_length_eq_zero (by omega)
    rw [hempty] at hs
    exact hs
  | succ fuel ih =>
    cases queue with
    | nil => exact hs
    | cons node queue =>
      refine ih _ _ (hs.next h rfl) ?_
      simp only [List.length_cons, List.length_append] at hfuel ⊢
      omega

/-- **The guards of a meta graph** are the nodes that lead to a marked type. -/
theorem mem_guards (h : Spans r origin g) (n : TypeId) :
    n ∈ g.guards ↔ ReflTransGen r.MetaStep origin n ∧ r.LeadsToMarked n := by
  have hs : Spreading r g g.guards [] :=
    spreading_spread h g.nodes.length g.marked g.marked (spreading_start h) (by omega)
  constructor
  · intro hn
    exact ⟨(h.mem_nodes n).mp (hs.guard n hn).1, (hs.guard n hn).2⟩
  · intro ⟨hreach, m, hnm, hmarked⟩
    -- Back along the metas from the marked type, each type carries a guard.
    induction hnm using ReflTransGen.head_induction_on with
    | refl => exact hs.marked m ((h.mem_marked m).mpr ⟨hreach, hmarked⟩)
    | head hstep _ ih =>
      have hguard := ih (hreach.tail hstep)
      rcases hs.carriers _ hguard with hq | hall
      · exact absurd hq List.not_mem_nil
      · exact hall _ ((h.mem_edges _ _).mpr ⟨hreach, hstep⟩)

/-! ## Cycles of guards -/

/-- The steps of the walk are the steps between metas that end at a guard. -/
theorem step_iff (h : Spans r origin g) (a b : TypeId) :
    Graph.Step g.metasOf g.guards.contains a b ↔
      ReflTransGen r.MetaStep origin a ∧ r.MetaStep a b ∧ r.LeadsToMarked b := by
  unfold Graph.Step
  rw [mem_metasOf, h.mem_edges, List.contains_iff_mem, h.mem_guards]
  constructor
  · intro ⟨⟨hreach, hstep⟩, _, hb⟩
    exact ⟨hreach, hstep, hb⟩
  · intro ⟨hreach, hstep, hb⟩
    exact ⟨⟨hreach, hstep⟩, hreach.tail hstep, hb⟩

theorem reach_of_steps (h : Spans r origin g) {a b : TypeId}
    (hab : ReflTransGen (Graph.Step g.metasOf g.guards.contains) a b) :
    ReflTransGen r.MetaStep a b :=
  ReflTransGen.mono (fun x y hxy => ((h.step_iff x y).mp hxy).2.1) a b hab

/-- A way to a type that leads to a marked one is a way through guards. -/
theorem steps_of_reach (h : Spans r origin g) {a b : TypeId}
    (ha : ReflTransGen r.MetaStep origin a) (hb : r.LeadsToMarked b)
    (hab : ReflTransGen r.MetaStep a b) :
    ReflTransGen (Graph.Step g.metasOf g.guards.contains) a b := by
  induction hab using ReflTransGen.head_induction_on with
  | refl => exact ReflTransGen.refl
  | head hstep hrest ih =>
    have hnext := ha.tail hstep
    exact ReflTransGen.head ((h.step_iff _ _).mpr ⟨ha, hstep, hb.of_reach hrest⟩) (ih hnext)

/-- **The walk decides** whether a cycle of metas can be reached whose types
    lead to a marked one. -/
theorem guardCycle_ne_none_iff (h : Spans r origin g) :
    g.guardCycle origin ≠ none ↔
      ∃ c, ReflTransGen r.MetaStep origin c ∧ TransGen r.MetaStep c c ∧ r.LeadsToMarked c := by
  have hnodes : ∀ n, ReflTransGen (Graph.Step g.metasOf g.guards.contains) origin n → n ∈ g.nodes :=
    fun n hn => (h.mem_nodes n).mpr (h.reach_of_steps hn)
  unfold guardCycle
  rw [Ne, Graph.findCycle_eq_none_iff hnodes, not_not]
  constructor
  · intro ⟨c, hreach, hcycle⟩
    have hmetas : TransGen r.MetaStep c c :=
      TransGen.mono (fun x y hxy => ((h.step_iff x y).mp hxy).2.1) c c hcycle
    refine ⟨c, h.reach_of_steps hreach, hmetas, ?_⟩
    -- The last step of the cycle ends at a guard.
    obtain ⟨_, -, hlast⟩ := TransGen.tail'_iff.mp hcycle
    exact ((h.step_iff _ _).mp hlast).2.2
  · intro ⟨c, hreach, hcycle, hc⟩
    refine ⟨c, h.steps_of_reach ReflTransGen.refl hc hreach, ?_⟩
    obtain ⟨d, hfirst, hback⟩ := TransGen.head'_iff.mp hcycle
    exact TransGen.head' ((h.step_iff c d).mpr ⟨hreach, hfirst, hc.of_reach hback⟩)
      (h.steps_of_reach (hreach.tail hfirst) hc hback)

/-- A reported cycle is one of the metas around the first node, and its types
    lead to a marked one. -/
theorem isCycleFrom_guardCycle (h : Spans r origin g) {cycle : List TypeId}
    (hcycle : g.guardCycle origin = some cycle) :
    Graph.IsCycleFrom g.metasOf g.guards.contains origin cycle :=
  Graph.isCycleFrom_of_findCycle (fun n hn => (h.mem_nodes n).mpr (h.reach_of_steps hn)) hcycle

end Spans

end MetaGraph

end AnnotationGuards
