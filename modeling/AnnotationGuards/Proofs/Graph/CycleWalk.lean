import AnnotationGuards.Graph.CycleWalk
import Mathlib.Data.List.Chain
import Mathlib.Data.List.Nodup
import Mathlib.Data.List.Perm.Subperm
import Mathlib.Logic.Relation

/-! # What a walk for cycles finds

    The walk finds a cycle of chosen nodes exactly when one can be reached
    through chosen nodes, on any graph and for any choice of nodes.

    * `Settled`: what is known of the nodes that a walk has finished with.
      They lead only to each other, and none of them lies on a cycle.
    * `Walk.Goes`, `Walk.Visits`: the walk without a bound.
    * `Walk.Valid`: what holds wherever a walk stands.
    * `Walk.Visits.outcome`: a visit either closes a cycle or comes back to
      where it was, with more nodes finished.
    * `Walk.visits_visit`: the bounded walk is the one without a bound.
    * `findCycle_eq_none_iff` and `isCycleFrom_of_findCycle`: the result. -/

namespace AnnotationGuards.Graph

open Relation

variable {α : Type u} {next : α → List α} {chosen : α → Bool} {start : α}

/-! ## Steps and cycles -/

/-- One step of a walk: to a chosen successor. -/
def Step (next : α → List α) (chosen : α → Bool) (a b : α) : Prop :=
  b ∈ next a ∧ chosen b = true

/-- A closed walk, written with its first node at both ends, that can be
    reached from `start` and passes no other node twice. -/
def IsCycleFrom (next : α → List α) (chosen : α → Bool) (start : α) (cycle : List α) : Prop :=
  ∃ c rest, cycle = c :: rest ++ [c] ∧ cycle.IsChain (Step next chosen) ∧
    (c :: rest).Nodup ∧ ReflTransGen (Step next chosen) start c

/-- Whatever comes before the last node of a chain leads to it. -/
theorem transGen_of_isChain {r : α → α → Prop} {l : List α} {a b : α}
    (h : (l ++ [b]).IsChain r) (ha : a ∈ l) : TransGen r a b := by
  induction l generalizing a with
  | nil => cases ha
  | cons x rest ih =>
    cases rest with
    | nil =>
      rw [List.mem_singleton] at ha
      rw [ha]
      exact TransGen.single (List.isChain_cons_cons.mp h).1
    | cons y rest =>
      -- The induction hypothesis speaks of the chain from `y` on.
      have hxy : r x y := (List.isChain_cons_cons.mp h).1
      have htail : (y :: rest ++ [b]).IsChain r := (List.isChain_cons_cons.mp h).2
      rcases List.mem_cons.mp ha with rfl | ha
      · exact TransGen.head hxy (ih htail (List.mem_cons_self ..))
      · exact ih htail ha

theorem IsCycleFrom.transGen {cycle : List α} (h : IsCycleFrom next chosen start cycle) :
    ∃ c, ReflTransGen (Step next chosen) start c ∧ TransGen (Step next chosen) c c := by
  obtain ⟨c, rest, rfl, hchain, -, hreach⟩ := h
  exact ⟨c, hreach, transGen_of_isChain hchain (List.mem_cons_self ..)⟩

/-! ## Settled nodes -/

/-- Nodes from which nothing is left to see: all steps from them stay among
    them, and no cycle passes through any of them. -/
structure Settled (next : α → List α) (chosen : α → Bool) (nodes : List α) : Prop where
  closed : ∀ n ∈ nodes, ∀ m, Step next chosen n m → m ∈ nodes
  acyclic : ∀ n ∈ nodes, ¬ TransGen (Step next chosen) n n

theorem settled_nil : Settled next chosen [] :=
  ⟨fun _ h => absurd h List.not_mem_nil, fun _ h => absurd h List.not_mem_nil⟩

theorem Settled.mem_of_reach {nodes : List α} (h : Settled next chosen nodes) {a b : α}
    (ha : a ∈ nodes) (hab : ReflTransGen (Step next chosen) a b) : b ∈ nodes := by
  induction hab with
  | refl => exact ha
  | tail _ hstep ih => exact h.closed _ ih _ hstep

/-- A node all of whose steps lead to settled nodes is settled as well. -/
theorem Settled.cons {nodes : List α} (h : Settled next chosen nodes) {node : α}
    (hnew : node ∉ nodes) (hsteps : ∀ m, Step next chosen node m → m ∈ nodes) :
    Settled next chosen (node :: nodes) := by
  constructor
  · intro n hn m hstep
    rcases List.mem_cons.mp hn with rfl | hn
    · exact List.mem_cons_of_mem _ (hsteps m hstep)
    · exact List.mem_cons_of_mem _ (h.closed n hn m hstep)
  · intro n hn hcycle
    rcases List.mem_cons.mp hn with rfl | hn
    · -- The first step of the cycle leads to a settled node, and from there nothing leads back.
      obtain ⟨m, hstep, hback⟩ := TransGen.head'_iff.mp hcycle
      exact hnew (h.mem_of_reach (hsteps m hstep) hback)
    · exact h.acyclic n hn hcycle

/-! ## Where a walk stands -/

namespace Walk

/-- What holds of a walk that began at `start`, wherever it stands. -/
structure Valid (next : α → List α) (chosen : α → Bool) (start : α) (w : Walk α) : Prop where
  chain : w.path.IsChain (Step next chosen)
  nodup : w.path.Nodup
  reached : ∀ n ∈ w.path, ReflTransGen (Step next chosen) start n
  mem_onPath : ∀ n, n ∈ w.onPath ↔ n ∈ w.path
  settled : Settled next chosen w.finished
  /-- No node is finished while the walk still stands behind it. -/
  apart : ∀ n ∈ w.path, n ∉ w.finished

/-- What a part of a walk that finds no cycle leaves behind: the same path, and
    more finished nodes, those of `seen` among them. -/
structure Returned (next : α → List α) (chosen : α → Bool) (w : Walk α) (seen : List α)
    (w' : Walk α) : Prop where
  path_eq : w'.path = w.path
  onPath_eq : w'.onPath = w.onPath
  grown : ∀ n ∈ w.finished, n ∈ w'.finished
  settled : Settled next chosen w'.finished
  apart : ∀ n ∈ w.path, n ∉ w'.finished
  seen : ∀ n ∈ seen, n ∈ w'.finished

/-- What a part of a walk comes to. -/
def Outcome (next : α → List α) (chosen : α → Bool) (start : α) (w : Walk α) (seen : List α) :
    Option (List α) → Walk α → Prop
  | some cycle, _ => IsCycleFrom next chosen start cycle
  | none, w' => Returned next chosen w seen w'

variable {w w' w'' : Walk α} {node m : α} {seen more rest : List α} {out : Option (List α)}

theorem Valid.of_returned (h : Valid next chosen start w) (hr : Returned next chosen w seen w') :
    Valid next chosen start w' where
  chain := by rw [hr.path_eq]; exact h.chain
  nodup := by rw [hr.path_eq]; exact h.nodup
  reached := by rw [hr.path_eq]; exact h.reached
  mem_onPath := by rw [hr.path_eq, hr.onPath_eq]; exact h.mem_onPath
  settled := hr.settled
  apart := by rw [hr.path_eq]; exact hr.apart

/-- Where nothing is left to see, a walk stays as it is. -/
theorem Valid.returned (h : Valid next chosen start w) (hseen : ∀ n ∈ seen, n ∈ w.finished) :
    Returned next chosen w seen w where
  path_eq := rfl
  onPath_eq := rfl
  grown := fun _ hn => hn
  settled := h.settled
  apart := h.apart
  seen := hseen

theorem Returned.trans (h : Returned next chosen w seen w')
    (h' : Returned next chosen w' more w'') : Returned next chosen w (seen ++ more) w'' where
  path_eq := h'.path_eq.trans h.path_eq
  onPath_eq := h'.onPath_eq.trans h.onPath_eq
  grown := fun n hn => h'.grown n (h.grown n hn)
  settled := h'.settled
  apart := fun n hn => h'.apart n (by rw [h.path_eq]; exact hn)
  seen := by
    intro n hn
    rcases List.mem_append.mp hn with hn | hn
    · exact h'.grown n (h.seen n hn)
    · exact h'.seen n hn

theorem Outcome.after_returned (h : Returned next chosen w seen w')
    (h' : Outcome next chosen start w' more out w'') :
    Outcome next chosen start w (seen ++ more) out w'' := by
  cases out with
  | none => exact h.trans h'
  | some cycle => exact h'

/-- The nodes on a path are distinct, so there are no more of them than nodes in
    any list that holds all that can be reached. -/
theorem Valid.length_le (h : Valid next chosen start w) {nodes : List α}
    (hnodes : ∀ n, ReflTransGen (Step next chosen) start n → n ∈ nodes) :
    w.path.length ≤ nodes.length :=
  (List.subperm_of_subset h.nodup fun n hn => hnodes n (h.reached n hn)).length_le

/-- A walk that has not begun. -/
theorem valid_empty (next : α → List α) (chosen : α → Bool) (start : α) :
    Valid next chosen start {} where
  chain := List.isChain_nil
  nodup := List.nodup_nil
  reached := fun _ h => absurd h List.not_mem_nil
  mem_onPath := fun _ => Iff.rfl
  settled := settled_nil
  apart := fun _ h => absurd h List.not_mem_nil

/-! ## The walk without a bound -/

variable [DecidableEq α]

/-- A walk through the nodes that are still to be seen from where it stands, as far as it
    goes: to the end of them, or to a cycle. -/
inductive Goes (next : α → List α) (chosen : α → Bool) :
    Walk α → List α → Option (List α) → Walk α → Prop
  | done {w : Walk α} : Goes next chosen w [] none w
  | pass {w w' : Walk α} {m : α} {rest : List α} {out : Option (List α)}
    (hpass : chosen m = false ∨ m ∈ w.finished) (hrest : Goes next chosen w rest out w') :
    Goes next chosen w (m :: rest) out w'
  | meet {w : Walk α} {m : α} {rest : List α} (hchosen : chosen m = true)
    (hopen : m ∉ w.finished) (hon : m ∈ w.onPath) :
    Goes next chosen w (m :: rest) (some (w.cycleAt m)) w
  | inside {w w' : Walk α} {m : α} {rest cycle : List α} (hchosen : chosen m = true)
    (hopen : m ∉ w.finished) (hoff : m ∉ w.onPath)
    (hin : Goes next chosen (w.enter m) (next m) (some cycle) w') :
    Goes next chosen w (m :: rest) (some cycle) w'
  | beyond {w w' w'' : Walk α} {m : α} {rest : List α} {out : Option (List α)}
    (hchosen : chosen m = true) (hopen : m ∉ w.finished) (hoff : m ∉ w.onPath)
    (hin : Goes next chosen (w.enter m) (next m) none w')
    (hrest : Goes next chosen (w'.leave m) rest out w'') :
    Goes next chosen w (m :: rest) out w''

/-- A visit of a node: into it, on through its successors, and out of it again, unless a
    cycle is met on the way. -/
inductive Visits (next : α → List α) (chosen : α → Bool) (w : Walk α) (node : α) :
    Option (List α) → Walk α → Prop
  | met {cycle : List α} {w' : Walk α}
    (hin : Goes next chosen (w.enter node) (next node) (some cycle) w') :
    Visits next chosen w node (some cycle) w'
  | left {w' : Walk α} (hin : Goes next chosen (w.enter node) (next node) none w') :
    Visits next chosen w node none (w'.leave node)

/-- A visit that meets a cycle ends the walk. -/
theorem Visits.inside {cycle : List α} (h : Visits next chosen w m (some cycle) w')
    (hchosen : chosen m = true) (hopen : m ∉ w.finished) (hoff : m ∉ w.onPath) :
    Goes next chosen w (m :: rest) (some cycle) w' := by
  cases h with
  | met hin => exact .inside hchosen hopen hoff hin

/-- After a visit that meets none the walk goes on. -/
theorem Visits.beyond (h : Visits next chosen w m none w') (hchosen : chosen m = true)
    (hopen : m ∉ w.finished) (hoff : m ∉ w.onPath) (hrest : Goes next chosen w' rest out w'') :
    Goes next chosen w (m :: rest) out w'' := by
  cases h with
  | left hin => exact .beyond hchosen hopen hoff hin hrest

/-- There is one way for a walk to go. -/
theorem Goes.unique {out' : Option (List α)} (h : Goes next chosen w rest out w')
    (h' : Goes next chosen w rest out' w'') : out' = out ∧ w'' = w' := by
  induction h generalizing out' w'' with
  | done =>
    cases h' with
    | done => exact ⟨rfl, rfl⟩
  | pass hpass hrest ih =>
    cases h' with
    | pass _ hrest' => exact ih hrest'
    | meet hchosen hopen | inside hchosen hopen | beyond hchosen hopen =>
      rcases hpass with hnot | hfin
      · rw [hchosen] at hnot
        cases hnot
      · exact absurd hfin hopen
  | meet hchosen hopen hon =>
    cases h' with
    | pass hpass' => simp_all
    | meet => exact ⟨rfl, rfl⟩
    | inside _ _ hoff' | beyond _ _ hoff' => exact absurd hon hoff'
  | inside hchosen hopen hoff hin ih =>
    cases h' with
    | pass hpass' => simp_all
    | meet _ _ hon' => exact absurd hon' hoff
    | inside _ _ _ hin' => exact ih hin'
    | beyond _ _ _ hin' =>
      have hout := (ih hin').1
      cases hout
  | beyond hchosen hopen hoff hin hrest ih ihrest =>
    cases h' with
    | pass hpass' => simp_all
    | meet _ _ hon' => exact absurd hon' hoff
    | inside _ _ _ hin' =>
      have hout := (ih hin').1
      cases hout
    | beyond _ _ _ hin' hrest' =>
      obtain ⟨-, rfl⟩ := ih hin'
      exact ihrest hrest'

theorem Visits.unique {out' : Option (List α)} (h : Visits next chosen w node out w')
    (h' : Visits next chosen w node out' w'') : out' = out ∧ w'' = w' := by
  cases h with
  | met hin =>
    cases h' with
    | met hin' => exact hin.unique hin'
    | left hin' => cases (hin.unique hin').1
  | left hin =>
    cases h' with
    | met hin' => cases (hin.unique hin').1
    | left hin' =>
      obtain ⟨-, rfl⟩ := hin.unique hin'
      exact ⟨rfl, rfl⟩

/-! ## One step further and one step back -/

@[simp] theorem getLast?_path_enter (w : Walk α) (node : α) :
    (w.enter node).path.getLast? = some node := by
  simp [enter]

/-- A walk may go on to any chosen successor that it has neither passed nor
    finished with. -/
theorem Valid.enter (h : Valid next chosen start w) (hlast : w.path.getLast? = some node)
    (hstep : Step next chosen node m) (hopen : m ∉ w.finished) (hoff : m ∉ w.onPath) :
    Valid next chosen start (w.enter m) where
  chain := by
    refine h.chain.append (List.isChain_singleton m) ?_
    intro x hx y hy
    rw [hlast, Option.mem_some_iff] at hx
    rw [List.head?_cons, Option.mem_some_iff] at hy
    rw [← hx, ← hy]
    exact hstep
  nodup := by
    show (w.path ++ [m]).Nodup
    rw [List.nodup_append]
    refine ⟨h.nodup, List.nodup_singleton m, ?_⟩
    intro a ha b hb hab
    rw [List.mem_singleton] at hb
    exact hoff ((h.mem_onPath m).mpr (by rw [← hb, ← hab]; exact ha))
  reached := by
    intro n hn
    rcases List.mem_append.mp hn with hn | hn
    · exact h.reached n hn
    · rw [List.mem_singleton.mp hn]
      exact (h.reached node (List.mem_of_getLast? hlast)).tail hstep
  mem_onPath := by
    intro n
    simp only [Walk.enter, List.mem_insert_iff, List.mem_append, List.mem_singleton, h.mem_onPath]
    exact or_comm
  settled := h.settled
  apart := by
    intro n hn
    rcases List.mem_append.mp hn with hn | hn
    · exact h.apart n hn
    · rw [List.mem_singleton.mp hn]
      exact hopen

/-- A node that is entered was not on the path before. -/
theorem Valid.not_mem_path (h : Valid next chosen start (w.enter node)) : node ∉ w.path := by
  intro hmem
  have hnodup : (w.path ++ [node]).Nodup := h.nodup
  rw [List.nodup_append] at hnodup
  exact hnodup.2.2 node hmem node (List.mem_singleton_self node) rfl

/-- A node whose chosen successors are all finished is left as finished, and the walk is
    back where it was. -/
theorem Returned.leave (h : Valid next chosen start w)
    (henter : Valid next chosen start (w.enter node))
    (hr : Returned next chosen (w.enter node) ((next node).filter chosen) w') :
    Returned next chosen w [node] (w'.leave node) where
  path_eq := by
    show w'.path.dropLast = w.path
    rw [hr.path_eq]
    exact List.dropLast_concat
  onPath_eq := by
    have hoff : node ∉ w.onPath := fun hon => henter.not_mem_path ((h.mem_onPath node).mp hon)
    show w'.onPath.erase node = w.onPath
    rw [hr.onPath_eq, Walk.enter, List.insert_of_not_mem hoff, List.erase_cons_head]
  grown := fun n hn => List.mem_insert_of_mem (hr.grown n hn)
  settled := by
    -- `node` was not finished before, since the walk stood on it.
    have hnode : node ∈ (w.enter node).path := List.mem_append_right _ (List.mem_singleton_self _)
    show Settled next chosen (w'.finished.insert node)
    rw [List.insert_of_not_mem (hr.apart node hnode)]
    refine hr.settled.cons (hr.apart node hnode) ?_
    intro m hstep
    exact hr.seen m (List.mem_filter.mpr hstep)
  apart := by
    intro n hn hfin
    rcases List.mem_insert_iff.mp hfin with rfl | hfin
    · exact henter.not_mem_path hn
    · exact hr.apart n (List.mem_append_left _ hn) hfin
  seen := fun n hn => by
    rw [List.mem_singleton.mp hn]
    exact List.mem_insert_self

/-- A walk that has just entered its first node. -/
theorem valid_start (next : α → List α) (chosen : α → Bool) (start : α) :
    Valid next chosen start (Walk.enter {} start) where
  chain := List.isChain_singleton start
  nodup := List.nodup_singleton start
  reached := fun n hn => by rw [List.mem_singleton.mp hn]
  mem_onPath := fun _ => Iff.rfl
  settled := settled_nil
  apart := fun _ _ => List.not_mem_nil

/-! ## What a walk comes to -/

/-- From a node on the path the cycle is what stands on the path from there on. -/
theorem cycleAt_eq {before rest : List α} (hsplit : w.path = before ++ m :: rest)
    (hfresh : m ∉ before) : w.cycleAt m = m :: rest ++ [m] := by
  have hindex : w.path.idxOf? m = some before.length := by
    have hnone : before.findIdx? (· == m) = none := by
      simp only [List.findIdx?_eq_none_iff, beq_eq_false_iff_ne]
      rintro n hn rfl
      exact hfresh hn
    simp [hsplit, List.idxOf?, List.findIdx?_append, List.findIdx?_cons, hnone]
  rw [cycleAt, hindex, Option.getD_some, hsplit, List.drop_left' rfl]

/-- A successor that the walk has passed before closes a cycle. -/
theorem isCycleFrom_cycleAt (h : Valid next chosen start w) (hlast : w.path.getLast? = some node)
    (hstep : Step next chosen node m) (hm : m ∈ w.path) :
    IsCycleFrom next chosen start (w.cycleAt m) := by
  -- The cycle is what stands on the path from `m` on, which occurs there once.
  obtain ⟨before, rest, hsplit⟩ := List.append_of_mem hm
  have hnodup := h.nodup
  rw [hsplit, List.nodup_append] at hnodup
  have hfresh : m ∉ before := fun hmem => hnodup.2.2 m hmem m (List.mem_cons_self ..) rfl
  refine ⟨m, rest, cycleAt_eq hsplit hfresh, ?_, hnodup.2.1, h.reached m hm⟩
  -- The path from `m` on is a chain that ends at `node`, and `m` is one step further.
  have hchain : (before ++ m :: rest).IsChain (Step next chosen) := by
    rw [← hsplit]
    exact h.chain
  have hend : (m :: rest).getLast? = some node := by
    rw [← List.getLast?_append_of_ne_nil before (List.cons_ne_nil m rest), ← hsplit]
    exact hlast
  rw [cycleAt_eq hsplit hfresh]
  refine hchain.right_of_append.append (List.isChain_singleton m) ?_
  intro x hx y hy
  rw [hend, Option.mem_some_iff] at hx
  rw [List.head?_cons, Option.mem_some_iff] at hy
  rw [← hx, ← hy]
  exact hstep

/-- **A walk through successors** of the node where it stands either closes a cycle, or
    comes back to where it was with the chosen ones finished. -/
theorem Goes.outcome (h : Goes next chosen w rest out w') (hvalid : Valid next chosen start w)
    (hlast : w.path.getLast? = some node) (hsub : ∀ m ∈ rest, m ∈ next node) :
    Outcome next chosen start w (rest.filter chosen) out w' := by
  -- On the way that the walk goes. Between two successors it is back on the path of
  -- `node`, with more nodes finished.
  induction h generalizing node with
  | done => exact hvalid.returned fun _ hn => absurd hn List.not_mem_nil
  | @pass w w' m rest out hpass hrest ih =>
    have hout := ih hvalid hlast fun n hn => hsub n (List.mem_cons_of_mem _ hn)
    by_cases hchosen : chosen m = true
    · -- Nothing is left to see from a finished successor.
      have hfin : m ∈ w.finished := hpass.resolve_left (by simp [hchosen])
      have hskip : Returned next chosen w [m] w :=
        hvalid.returned fun n hn => by rw [List.mem_singleton.mp hn]; exact hfin
      rw [List.filter_cons_of_pos hchosen]
      exact Outcome.after_returned hskip hout
    · rw [List.filter_cons_of_neg hchosen]
      exact hout
  | @meet w m rest hchosen hopen hon =>
    have hstep : Step next chosen node m := ⟨hsub m (List.mem_cons_self ..), hchosen⟩
    exact isCycleFrom_cycleAt hvalid hlast hstep ((hvalid.mem_onPath m).mp hon)
  | @inside w w' m rest cycle hchosen hopen hoff hin ih =>
    have hstep : Step next chosen node m := ⟨hsub m (List.mem_cons_self ..), hchosen⟩
    exact ih (hvalid.enter hlast hstep hopen hoff) (getLast?_path_enter w m) fun _ hn => hn
  | @beyond w w' w'' m rest out hchosen hopen hoff hin hrest ih ihrest =>
    have hstep : Step next chosen node m := ⟨hsub m (List.mem_cons_self ..), hchosen⟩
    have henter : Valid next chosen start (w.enter m) := hvalid.enter hlast hstep hopen hoff
    have hinside : Returned next chosen (w.enter m) ((next m).filter chosen) w' :=
      ih henter (getLast?_path_enter w m) fun _ hn => hn
    have hback : Returned next chosen w [m] (w'.leave m) := hinside.leave hvalid henter
    have hout := ihrest (hvalid.of_returned hback) (by rw [hback.path_eq]; exact hlast)
      fun n hn => hsub n (List.mem_cons_of_mem _ hn)
    rw [List.filter_cons_of_pos hchosen]
    exact Outcome.after_returned hback hout

/-- **A visit** of a node that the walk may enter either closes a cycle, or
    comes back to where it was with the node finished. -/
theorem Visits.outcome (h : Visits next chosen w node out w') (hvalid : Valid next chosen start w)
    (henter : Valid next chosen start (w.enter node)) :
    Outcome next chosen start w [node] out w' := by
  cases h with
  | met hin => exact hin.outcome henter (getLast?_path_enter w node) fun _ hn => hn
  | left hin =>
    have hinside : Returned next chosen (w.enter node) ((next node).filter chosen) _ :=
      hin.outcome henter (getLast?_path_enter w node) fun _ hn => hn
    exact hinside.leave hvalid henter

/-! ## The walk within its bound -/

/-- Going through successors of a node comes to what the walk without a bound comes to, if
    the visits do. -/
theorem goes_visitAll {visit : Walk α → α → Option (List α) × Walk α}
    (hvalid : Valid next chosen start w) (hlast : w.path.getLast? = some node)
    (hsub : ∀ m ∈ rest, m ∈ next node)
    (hvisit : ∀ (v : Walk α) (m : α), v.path = w.path → Valid next chosen start v →
      Valid next chosen start (v.enter m) → Visits next chosen v m (visit v m).1 (visit v m).2) :
    Goes next chosen w rest (visitAll chosen visit w rest).1 (visitAll chosen visit w rest).2 := by
  induction rest generalizing w with
  | nil => exact .done
  | cons m rest ih =>
    have hrest : ∀ n ∈ rest, n ∈ next node := fun n hn => hsub n (List.mem_cons_of_mem _ hn)
    unfold visitAll
    by_cases hpass : chosen m = false ∨ m ∈ w.finished
    · rw [if_pos (by simpa using hpass)]
      exact .pass hpass (ih hvalid hlast hrest hvisit)
    · rw [if_neg (by simpa using hpass)]
      obtain ⟨hnot, hopen⟩ := not_or.mp hpass
      have hchosen : chosen m = true := by simpa using hnot
      by_cases hon : m ∈ w.onPath
      · rw [if_pos hon]
        exact .meet hchosen hopen hon
      · rw [if_neg hon]
        have henter : Valid next chosen start (w.enter m) :=
          hvalid.enter hlast ⟨hsub m (List.mem_cons_self ..), hchosen⟩ hopen hon
        have hin := hvisit w m rfl hvalid henter
        rcases hv : visit w m with ⟨_ | cycle, w'⟩
        · rw [hv] at hin
          have hback : Returned next chosen w [m] w' := hin.outcome hvalid henter
          have hpath : w'.path = w.path := hback.path_eq
          exact hin.beyond hchosen hopen hon (ih (hvalid.of_returned hback)
            (by rw [hpath]; exact hlast) hrest fun v m hv => hvisit v m (hv.trans hpath))
        · rw [hv] at hin
          exact hin.inside hchosen hopen hon

/-- **The bounded walk is the one without a bound**, as long as bound and path together
    exceed the number of nodes: the path cannot grow beyond that. -/
theorem visits_visit {nodes : List α}
    (hnodes : ∀ n, ReflTransGen (Step next chosen) start n → n ∈ nodes) (fuel : Nat)
    (hvalid : Valid next chosen start w) (henter : Valid next chosen start (w.enter node))
    (hfuel : nodes.length < fuel + w.path.length) :
    Visits next chosen w node (visit next chosen fuel w node).1
      (visit next chosen fuel w node).2 := by
  have hlength : (w.enter node).path.length = w.path.length + 1 := by simp [enter]
  induction fuel generalizing w node with
  | zero =>
    -- The path would be longer than there are nodes.
    have hle := henter.length_le hnodes
    omega
  | succ fuel ih =>
    have hall : Goes next chosen (w.enter node) (next node)
        (visitAll chosen (visit next chosen fuel) (w.enter node) (next node)).1
        (visitAll chosen (visit next chosen fuel) (w.enter node) (next node)).2 := by
      refine goes_visitAll henter (getLast?_path_enter w node) (fun _ hm => hm) ?_
      intro v m hpath hv hvm
      exact ih hv hvm (by rw [hpath]; omega) (by simp [enter])
    unfold visit
    rcases hv : visitAll chosen (visit next chosen fuel) (w.enter node) (next node) with
      ⟨_ | cycle, w'⟩
    · rw [hv] at hall
      exact .left hall
    · rw [hv] at hall
      exact .met hall

end Walk

/-! ## The result of a walk -/

variable [DecidableEq α] {nodes : List α}

/-- The walk from a node comes to its end, with the cycle that is found, if there is one. -/
theorem visits_findCycle
    (hnodes : ∀ n, ReflTransGen (Step next chosen) start n → n ∈ nodes) :
    ∃ w, Walk.Visits next chosen {} start (findCycle next chosen nodes start) w :=
  ⟨_, Walk.visits_visit hnodes (nodes.length + 1) (Walk.valid_empty next chosen start)
    (Walk.valid_start next chosen start) (by simp)⟩

theorem findCycle_outcome
    (hnodes : ∀ n, ReflTransGen (Step next chosen) start n → n ∈ nodes) :
    ∃ w, Walk.Outcome next chosen start {} [start] (findCycle next chosen nodes start) w := by
  obtain ⟨w, hvisits⟩ := visits_findCycle hnodes
  exact ⟨w, hvisits.outcome (Walk.valid_empty next chosen start)
    (Walk.valid_start next chosen start)⟩

/-- What a walk reports is a cycle that can be reached from where it began. -/
theorem isCycleFrom_of_findCycle {cycle : List α}
    (hnodes : ∀ n, ReflTransGen (Step next chosen) start n → n ∈ nodes)
    (h : findCycle next chosen nodes start = some cycle) :
    IsCycleFrom next chosen start cycle := by
  obtain ⟨w, hout⟩ := findCycle_outcome hnodes
  rw [h] at hout
  exact hout

/-- A walk finds nothing exactly when no cycle of chosen nodes can be reached. -/
theorem findCycle_eq_none_iff
    (hnodes : ∀ n, ReflTransGen (Step next chosen) start n → n ∈ nodes) :
    findCycle next chosen nodes start = none ↔
      ¬ ∃ c, ReflTransGen (Step next chosen) start c ∧ TransGen (Step next chosen) c c := by
  constructor
  · intro h ⟨c, hreach, hcycle⟩
    obtain ⟨w, hout⟩ := findCycle_outcome hnodes
    rw [h] at hout
    -- All that can be reached is finished, and no finished node lies on a cycle.
    have hreturned : Walk.Returned next chosen {} [start] w := hout
    have hstart : start ∈ w.finished := hreturned.seen start (List.mem_singleton_self start)
    exact hreturned.settled.acyclic c (hreturned.settled.mem_of_reach hstart hreach) hcycle
  · intro h
    cases hfind : findCycle next chosen nodes start with
    | none => rfl
    | some cycle => exact absurd (isCycleFrom_of_findCycle hnodes hfind).transGen h

end AnnotationGuards.Graph
