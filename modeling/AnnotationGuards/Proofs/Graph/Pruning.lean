import AnnotationGuards.Proofs.Graph.CycleWalk

/-! # Why finished nodes may be passed over

    All visits of one walk share the path, the set of its nodes and the set of the finished
    ones, and a node is passed over once it is finished, though the walk may still stand on
    nodes that lead to it. Nothing is missed by this, on any finite graph and for any choice
    of nodes: whatever could be reached from a node has been seen when it is finished, and
    a way back to the path would have closed a cycle.

    * `LeadsToCycle`: what a walk looks for.
    * `Walk.Calls`: the visits that a walk is made of, each with where the walk stands.
    * `Walk.Calls.valid`: what holds wherever a visit begins.
    * **`pruned_walk`**: every visit ends, what the whole walk finds, and what is left
      behind by the visits that find nothing. -/

namespace AnnotationGuards.Graph

open Relation

variable {α : Type u} {next : α → List α} {chosen : α → Bool} {start : α}

/-- By steps to chosen nodes alone a node is reached that lies on a cycle of such steps. -/
def LeadsToCycle (next : α → List α) (chosen : α → Bool) (n : α) : Prop :=
  ∃ c, ReflTransGen (Step next chosen) n c ∧ TransGen (Step next chosen) c c

/-- From settled nodes no cycle is reached. -/
theorem Settled.not_leadsToCycle {nodes : List α} (h : Settled next chosen nodes) {n : α}
    (hn : n ∈ nodes) : ¬ LeadsToCycle next chosen n := by
  rintro ⟨c, hreach, hcycle⟩
  exact h.acyclic c (h.mem_of_reach hn hreach) hcycle

/-! ## The visits of a walk -/

namespace Walk

variable [DecidableEq α] {w w' : Walk α} {node : α} {out : Option (List α)}

/-- The walk from `start` comes to visit a node, with the walk as it stands before. -/
inductive Calls (next : α → List α) (chosen : α → Bool) (start : α) : Walk α → α → Prop
  | first : Calls next chosen start {} start
  /-- Inside a visit, at a successor that is neither passed over nor met again. -/
  | inner {w w' : Walk α} {node m : α} {before after : List α}
    (hcall : Calls next chosen start w node) (hnext : next node = before ++ m :: after)
    (hbefore : Goes next chosen (w.enter node) before none w') (hchosen : chosen m = true)
    (hopen : m ∉ w'.finished) (hoff : m ∉ w'.onPath) : Calls next chosen start w' m

/-- Wherever a visit begins, the walk stands as it should, and may enter the node. -/
theorem Calls.valid (h : Calls next chosen start w node) :
    Valid next chosen start w ∧ Valid next chosen start (w.enter node) := by
  induction h with
  | first => exact ⟨valid_empty next chosen start, valid_start next chosen start⟩
  | @inner w w' node m before after hcall hnext hbefore hchosen hopen hoff ih =>
    -- The successors before `m` have led back to where the walk had entered `node`.
    have hsub : ∀ n ∈ before, n ∈ next node := by
      intro n hn
      rw [hnext]
      exact List.mem_append_left _ hn
    have hback : Returned next chosen (w.enter node) (before.filter chosen) w' :=
      hbefore.outcome ih.2 (getLast?_path_enter w node) hsub
    have hvalid : Valid next chosen start w' := ih.2.of_returned hback
    have hlast : w'.path.getLast? = some node := by
      rw [hback.path_eq]
      exact getLast?_path_enter w node
    have hm : m ∈ next node := by
      rw [hnext]
      exact List.mem_append_right _ (List.mem_cons_self ..)
    exact ⟨hvalid, hvalid.enter hlast ⟨hm, hchosen⟩ hopen hoff⟩

/-- What a visit of a walk comes to. -/
theorem Calls.outcome (h : Calls next chosen start w node)
    (hvisits : Visits next chosen w node out w') : Outcome next chosen start w [node] out w' :=
  hvisits.outcome h.valid.1 h.valid.2

/-- A visit begins on a path that is shorter than the list of all nodes. -/
theorem Calls.length_lt (h : Calls next chosen start w node) {nodes : List α}
    (hnodes : ∀ n, ReflTransGen (Step next chosen) start n → n ∈ nodes) :
    w.path.length < nodes.length := by
  have hle := h.valid.2.length_le hnodes
  simp only [enter, List.length_append, List.length_singleton] at hle
  exact hle

/-- Every visit of a walk comes to its end, and in one way only: as the bounded visit does,
    if the bound is large enough. -/
theorem Calls.visits_iff (h : Calls next chosen start w node) {nodes : List α}
    (hnodes : ∀ n, ReflTransGen (Step next chosen) start n → n ∈ nodes) {fuel : Nat}
    (hfuel : nodes.length < fuel + w.path.length) :
    Visits next chosen w node out w' ↔ visit next chosen fuel w node = (out, w') := by
  have hends := visits_visit hnodes fuel h.valid.1 h.valid.2 hfuel
  constructor
  · intro hvisits
    obtain ⟨hout, hw⟩ := hvisits.unique hends
    exact Prod.ext hout hw
  · intro hvisit
    rw [hvisit] at hends
    exact hends

end Walk

/-! ## Walks on finite graphs -/

variable {nodes : List α}

/-- Steps do not lead out of the graph. -/
theorem mem_of_reach (hgraph : ∀ n ∈ nodes, ∀ m ∈ next n, m ∈ nodes) (hstart : start ∈ nodes)
    {n : α} (h : ReflTransGen (Step next chosen) start n) : n ∈ nodes := by
  induction h with
  | refl => exact hstart
  | tail _ hstep ih => exact hgraph _ ih _ hstep.1

variable [DecidableEq α]

/-- **The pruned walk is right on any finite graph**, whatever nodes are chosen on it, and
    from wherever it begins with nothing on its path and nothing finished. Here `next` lists,
    for each node, those where the edges into it come from.

    1. None of its visits begins deeper than there are nodes. Each of them comes to its end,
       and in one way only: to what is computed for it within any bound that leaves room for
       all nodes.
    2. The visit of the first node comes to the cycle that is found, if there is one.
    3. None is found exactly if none can be reached: no cycle of chosen nodes alone, through
       chosen nodes alone.
    4. What is found is such a cycle, closed and with no other node twice.
    5. A visit that finds none leaves the path and the set of its nodes exactly as they
       were. Finished nodes stay finished, the visited one is among them, and from none of
       them can such a cycle be reached. -/
theorem pruned_walk (hgraph : ∀ n ∈ nodes, ∀ m ∈ next n, m ∈ nodes) (hstart : start ∈ nodes)
    (chosen : α → Bool) :
    (∀ w node, Walk.Calls next chosen start w node → w.path.length < nodes.length ∧
      ∀ fuel, nodes.length < fuel + w.path.length → ∀ out w',
        Walk.Visits next chosen w node out w' ↔ Walk.visit next chosen fuel w node = (out, w')) ∧
    (∃ w, Walk.Visits next chosen {} start (findCycle next chosen nodes start) w) ∧
    (findCycle next chosen nodes start = none ↔ ¬ LeadsToCycle next chosen start) ∧
    (∀ cycle, findCycle next chosen nodes start = some cycle →
      IsCycleFrom next chosen start cycle) ∧
    ∀ w node w', Walk.Calls next chosen start w node → Walk.Visits next chosen w node none w' →
      w'.path = w.path ∧ w'.onPath = w.onPath ∧ (∀ n ∈ w.finished, n ∈ w'.finished) ∧
        node ∈ w'.finished ∧ ∀ n ∈ w'.finished, ¬ LeadsToCycle next chosen n := by
  have hnodes : ∀ n, ReflTransGen (Step next chosen) start n → n ∈ nodes :=
    fun n => mem_of_reach hgraph hstart
  refine ⟨?_, visits_findCycle hnodes, findCycle_eq_none_iff hnodes, ?_, ?_⟩
  · intro w node hcall
    exact ⟨hcall.length_lt hnodes, fun fuel hfuel out w' => hcall.visits_iff hnodes hfuel⟩
  · intro cycle hfound
    exact isCycleFrom_of_findCycle hnodes hfound
  · intro w node w' hcall hvisits
    have hback : Walk.Returned next chosen w [node] w' := hcall.outcome hvisits
    exact ⟨hback.path_eq, hback.onPath_eq, hback.grown,
      hback.seen node (List.mem_singleton_self node), fun n hn => hback.settled.not_leadsToCycle hn⟩

/-! ## A node that is finished under way -/

namespace Sample.Diamond

/-- Two ways lead from the first node to the fourth one, which leads back to the first one
    and on to the last one. -/
def successors : Nat → List Nat
  | 0 => [1, 2]
  | 1 => [3]
  | 2 => [3, 1]
  | 3 => [4, 0]
  | _ => []

def points : List Nat := [0, 1, 2, 3, 4]

/-- All nodes but the first one. -/
def upper (n : Nat) : Bool := n ≠ 0

end Sample.Diamond

open Sample.Diamond in
/-- Where the first node is not chosen, the walk stands on it while the others are finished,
    passes them over from then on, and finds nothing; for the cycles lead through the first
    node. Where it is chosen, one of them is found. -/
theorem pruned_walk_diamond :
    (∀ n ∈ points, ∀ m ∈ successors n, m ∈ points) ∧ 0 ∈ points ∧
    findCycle successors upper points 0 = none ∧ ¬ LeadsToCycle successors upper 0 ∧
    Walk.Calls successors upper 0 ⟨[0], [0], [1, 3, 4]⟩ 2 ∧
    (∀ w, Walk.Visits successors upper ⟨[0], [0], [1, 3, 4]⟩ 2 none w →
      w.path = [0] ∧ w.onPath = [0] ∧ 2 ∈ w.finished) ∧
    findCycle successors (fun _ => true) points 0 = some [0, 1, 3, 0] ∧
    LeadsToCycle successors (fun _ => true) 0 := by
  have hgraph : ∀ n ∈ points, ∀ m ∈ successors n, m ∈ points := by decide
  have hstart : 0 ∈ points := by decide
  have hnone : findCycle successors upper points 0 = none := by decide
  have hcycle : findCycle successors (fun _ => true) points 0 = some [0, 1, 3, 0] := by decide
  obtain ⟨-, -, hupper, -, hvisits⟩ := pruned_walk hgraph hstart upper
  obtain ⟨-, -, hall, -, -⟩ := pruned_walk hgraph hstart fun _ => true
  -- The walk has finished the second node, and what it leads to, before it comes to the third.
  have hlast : Walk.Goes successors upper (Walk.enter ⟨[0, 1], [1, 0], []⟩ 3) (successors 3) none
      ⟨[0, 1, 3], [3, 1, 0], [4]⟩ :=
    .beyond rfl (by decide) (by decide) .done (.pass (.inl rfl) .done)
  have hfour : Walk.Goes successors upper (Walk.enter ⟨[0], [0], []⟩ 1) (successors 1) none
      ⟨[0, 1], [1, 0], [3, 4]⟩ := .beyond rfl (by decide) (by decide) hlast .done
  have hone : Walk.Goes successors upper (Walk.enter {} 0) [1] none ⟨[0], [0], [1, 3, 4]⟩ :=
    .beyond rfl (by decide) (by decide) hfour .done
  have hsplit : successors 0 = [1] ++ 2 :: [] := rfl
  have hcall : Walk.Calls successors upper 0 ⟨[0], [0], [1, 3, 4]⟩ 2 :=
    .inner .first hsplit hone rfl (by decide) (by decide)
  refine ⟨hgraph, hstart, hnone, hupper.mp hnone, hcall, ?_, hcycle, ?_⟩
  · intro w hw
    obtain ⟨hpath, hon, -, hseen, -⟩ := hvisits _ 2 w hcall hw
    exact ⟨hpath, hon, hseen⟩
  · by_contra hno
    rw [hall.mpr hno] at hcycle
    cases hcycle

end AnnotationGuards.Graph
