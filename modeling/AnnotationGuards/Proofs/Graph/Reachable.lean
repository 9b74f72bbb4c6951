import AnnotationGuards.Graph.Reachable
import Mathlib.Logic.Relation

/-! # The search finds what can be reached

    The search puts the successors of a node on its work list when the node is seen for
    the first time, and never again. So each edge is paid for once, and the search comes
    to its end within the bound that it is given.

    * `Graph.Searches`: the search without a bound.
    * `Graph.Searches.sound`: nothing else is found than what the edges lead to.
    * `Graph.Searches.closed`: the search ends with all of its work done.
    * `Graph.capacity`: what the search may still have to take off its work list. It goes
      down with every step.
    * `Graph.searches_reachable`: so the search comes to its end, with what the bounded one
      finds.
    * **`Graph.mem_reachable_iff`**: it finds exactly what can be reached. -/

namespace AnnotationGuards.Graph

open Relation

variable {α : Type u} {next : α → List α} {nodes starts : List α} {node m : α}

/-- An edge of the graph. -/
def Edge (next : α → List α) (n m : α) : Prop := m ∈ next n

/-! ## The search without a bound -/

/-- A search that goes on until nothing is pending: from the nodes still to visit and those
    already seen to all that is seen in the end. -/
inductive Searches (next : α → List α) : List α → List α → List α → Prop
  | done {seen : List α} : Searches next [] seen seen
  | again {node : α} {pending seen found : List α} (hold : node ∈ seen)
    (hrest : Searches next pending seen found) : Searches next (node :: pending) seen found
  | first {node : α} {pending seen found : List α} (hnew : node ∉ seen)
    (hrest : Searches next (next node ++ pending) (node :: seen) found) :
    Searches next (node :: pending) seen found

namespace Searches

variable {pending seen found : List α}

/-- What holds of the nodes that the search starts from, and is handed on along the
    edges, holds of all that it finds. -/
theorem sound {P : α → Prop} (hstep : ∀ n, P n → ∀ m, Edge next n m → P m)
    (h : Searches next pending seen found) (hpending : ∀ n ∈ pending, P n)
    (hseen : ∀ n ∈ seen, P n) : ∀ n ∈ found, P n := by
  induction h with
  | done => exact hseen
  | again hold hrest ih => exact ih (List.forall_mem_cons.mp hpending).2 hseen
  | first hnew hrest ih =>
    obtain ⟨hnode, hpending⟩ := List.forall_mem_cons.mp hpending
    apply ih
    · intro n hn
      rcases List.mem_append.mp hn with hn | hn
      · exact hstep _ hnode n hn
      · exact hpending n hn
    · exact List.forall_mem_cons.mpr ⟨hnode, hseen⟩

/-- The search has found whatever it was to visit, and with a node it has found the
    successors. -/
theorem closed (h : Searches next pending seen found)
    (hseen : ∀ n ∈ seen, ∀ m, Edge next n m → m ∈ seen ∨ m ∈ pending) :
    (∀ n, n ∈ seen ∨ n ∈ pending → n ∈ found) ∧
      ∀ n ∈ found, ∀ m, Edge next n m → m ∈ found := by
  induction h with
  | done => simpa using hseen
  | @again node pending seen found hold hrest ih =>
    have hstill : ∀ n, n ∈ seen ∨ n ∈ node :: pending → n ∈ seen ∨ n ∈ pending := by
      intro n hn
      rcases hn with hn | hn
      · exact .inl hn
      · rcases List.mem_cons.mp hn with rfl | hn
        · exact .inl hold
        · exact .inr hn
    obtain ⟨hfound, hclosed⟩ := ih fun n hn m hm => hstill m (hseen n hn m hm)
    exact ⟨fun n hn => hfound n (hstill n hn), hclosed⟩
  | @first node pending seen found hnew hrest ih =>
    have hstill : ∀ n, n ∈ seen ∨ n ∈ node :: pending →
        n ∈ node :: seen ∨ n ∈ next node ++ pending := by
      intro n hn
      rcases hn with hn | hn
      · exact .inl (List.mem_cons_of_mem _ hn)
      · rcases List.mem_cons.mp hn with rfl | hn
        · exact .inl (List.mem_cons_self ..)
        · exact .inr (List.mem_append_right _ hn)
    obtain ⟨hfound, hclosed⟩ := ih (by
      intro n hn m hm
      rcases List.mem_cons.mp hn with rfl | hn
      · exact .inr (List.mem_append_left _ hm)
      · exact hstill m (hseen n hn m hm))
    exact ⟨fun n hn => hfound n (hstill n hn), hclosed⟩

/-- There is one way for a search to go. -/
theorem unique {found' : List α} (h : Searches next pending seen found)
    (h' : Searches next pending seen found') : found' = found := by
  induction h with
  | done =>
    cases h' with
    | done => rfl
  | again hold hrest ih =>
    cases h' with
    | again _ hrest' => exact ih hrest'
    | first hnew _ => exact absurd hold hnew
  | first hnew hrest ih =>
    cases h' with
    | again hold _ => exact absurd hold hnew
    | first _ hrest' => exact ih hrest'

end Searches

/-! ## Enough fuel -/

variable [DecidableEq α]

/-- How many edges leave those nodes of a list that have not been seen. -/
def unseenEdges (next : α → List α) (seen : List α) : List α → Nat
  | [] => 0
  | n :: rest => (if n ∈ seen then 0 else (next n).length) + unseenEdges next seen rest

theorem unseenEdges_nil (next : α → List α) (nodes : List α) :
    unseenEdges next [] nodes = edgeCount next nodes := by
  induction nodes with
  | nil => rfl
  | cons n rest ih => simp [unseenEdges, edgeCount, ih]

theorem unseenEdges_cons_le (next : α → List α) (seen nodes : List α) (node : α) :
    unseenEdges next (node :: seen) nodes ≤ unseenEdges next seen nodes := by
  induction nodes with
  | nil => exact Nat.le_refl _
  | cons n rest ih =>
    unfold unseenEdges
    by_cases hn : n ∈ seen
    · simpa [hn] using ih
    · by_cases hsame : n = node
      · simp only [hsame, List.mem_cons_self, if_true]
        omega
      · simpa [hn, hsame] using ih

/-- With a node that is seen for the first time its edges are paid for. -/
theorem unseenEdges_cons_add_le {seen : List α} (hnew : node ∉ seen) (hnode : node ∈ nodes) :
    unseenEdges next (node :: seen) nodes + (next node).length ≤ unseenEdges next seen nodes := by
  induction nodes with
  | nil => cases hnode
  | cons n rest ih =>
    have hrest := unseenEdges_cons_le next seen rest node
    unfold unseenEdges
    by_cases hsame : n = node
    · simp only [hsame, hnew, List.mem_cons_self, if_true, if_false]
      omega
    · have hmem : node ∈ rest := (List.mem_cons.mp hnode).resolve_left fun h => hsame h.symm
      have hle := ih hmem
      by_cases hn : n ∈ seen
      · simpa [hn] using hle
      · simp only [List.mem_cons, hsame, hn, or_self, if_false]
        omega

/-- What the search may still have to take off its work list. -/
def capacity (next : α → List α) (nodes pending seen : List α) : Nat :=
  pending.length + unseenEdges next seen nodes

/-- A node that is seen for the first time takes up no capacity, though its successors
    are put on the work list. -/
theorem capacity_cons_lt (hnodes : ∀ n, n ∉ nodes → next n = []) {pending seen : List α}
    (hnew : node ∉ seen) :
    capacity next nodes (next node ++ pending) (node :: seen) <
      capacity next nodes (node :: pending) seen := by
  unfold capacity
  rw [List.length_append, List.length_cons]
  by_cases hnode : node ∈ nodes
  · have hpaid : unseenEdges next (node :: seen) nodes + (next node).length ≤
        unseenEdges next seen nodes := unseenEdges_cons_add_le hnew hnode
    omega
  · have hle := unseenEdges_cons_le next seen nodes node
    rw [hnodes node hnode, List.length_nil]
    omega

/-! ## The search within its bound -/

/-- The bounded search is the one without a bound, as long as the bound exceeds what it
    may have to take off its work list. -/
theorem searches_explore (hnodes : ∀ n, n ∉ nodes → next n = []) {fuel : Nat}
    {pending seen : List α} (hfuel : capacity next nodes pending seen < fuel) :
    Searches next pending seen (explore next fuel pending seen) := by
  induction fuel generalizing pending seen with
  | zero => omega
  | succ fuel ih =>
    cases pending with
    | nil => exact .done
    | cons node pending =>
      unfold explore
      by_cases hold : node ∈ seen
      · rw [if_pos hold]
        have hless : capacity next nodes pending seen < fuel := by
          unfold capacity at hfuel ⊢
          rw [List.length_cons] at hfuel
          omega
        exact .again hold (ih hless)
      · rw [if_neg hold]
        have hless : capacity next nodes (next node ++ pending) (node :: seen) < fuel :=
          Nat.lt_of_lt_of_le (capacity_cons_lt hnodes hold) (Nat.le_of_lt_succ hfuel)
        exact .first hold (ih hless)

/-- **The search comes to its end**, where only the listed nodes have successors. -/
theorem searches_reachable (hnodes : ∀ n, n ∉ nodes → next n = []) :
    Searches next starts [] (reachable next nodes starts) := by
  apply searches_explore hnodes
  unfold capacity
  rw [unseenEdges_nil]
  omega

/-- **The search finds exactly what can be reached**, where only the listed nodes have
    successors. -/
theorem mem_reachable_iff (hnodes : ∀ n, n ∉ nodes → next n = []) :
    m ∈ reachable next nodes starts ↔ ∃ s ∈ starts, ReflTransGen (Edge next) s m := by
  have hsearch : Searches next starts [] (reachable next nodes starts) :=
    searches_reachable hnodes
  constructor
  · intro hm
    refine hsearch.sound (P := fun n => ∃ s ∈ starts, ReflTransGen (Edge next) s n) ?_ ?_ ?_ m hm
    · rintro n ⟨s, hs, hreach⟩ k hk
      exact ⟨s, hs, hreach.tail hk⟩
    · intro n hn
      exact ⟨n, hn, .refl⟩
    · intro n hn
      cases hn
  · rintro ⟨s, hs, hreach⟩
    obtain ⟨hfound, hclosed⟩ := hsearch.closed (by simp)
    induction hreach with
    | refl => exact hfound s (.inr hs)
    | tail _ hedge ih => exact hclosed _ ih _ hedge

end AnnotationGuards.Graph
