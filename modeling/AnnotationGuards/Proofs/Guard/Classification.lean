import AnnotationGuards.Guard.Classification
import AnnotationGuards.Proofs.Guard.MetaGraph

/-! # What a verdict means

    The verdict on a type is read off the relation between annotation types and
    their metas, with no mention of the graph that is searched for it.

    * `classify_eq_ok_false_iff`: no guard.
    * `classify_eq_ok_true_iff`: a guard.
    * `exists_classify_eq_error_iff`: a circular one.
    * `classify_exact`: the three together, with cycles written as lists. -/

namespace AnnotationGuards

open Relation

variable {σ : Type} {r : Registry σ} {t m : TypeId}

/-! ## Cycles -/

namespace Registry

/-- The types of the list are metas of each other, each one of the type before
    it and the first one of the last. -/
def IsMetaCycle (r : Registry σ) (cycle : List TypeId) : Prop :=
  ∃ c rest, cycle = c :: rest ∧ (c :: rest ++ [c]).IsChain r.MetaStep

/-- Following metas from the type, in zero or more steps, a cycle of metas is met
    whose types lead to a marked one. -/
def LeadsToGuardCycle (r : Registry σ) (t : TypeId) : Prop :=
  ∃ cycle, r.IsMetaCycle cycle ∧ (∃ c ∈ cycle, ReflTransGen r.MetaStep t c) ∧
    ∀ n ∈ cycle, r.LeadsToMarked n

theorem LeadsToGuardCycle.leadsToMarked (h : r.LeadsToGuardCycle t) : r.LeadsToMarked t := by
  obtain ⟨cycle, -, ⟨c, hc, hreach⟩, hall⟩ := h
  exact (hall c hc).of_reach hreach

theorem LeadsToGuardCycle.of_reach (h : r.LeadsToGuardCycle m)
    (htm : ReflTransGen r.MetaStep t m) : r.LeadsToGuardCycle t := by
  obtain ⟨cycle, hcycle, ⟨c, hc, hreach⟩, hall⟩ := h
  exact ⟨cycle, hcycle, ⟨c, hc, htm.trans hreach⟩, hall⟩

/-- Each type of a cycle reaches each other one. -/
theorem reach_of_isChain_cycle {c : TypeId} {rest : List TypeId}
    (h : (c :: rest ++ [c]).IsChain r.MetaStep) {n : TypeId} (hn : n ∈ c :: rest) :
    ReflTransGen r.MetaStep c n ∧ ReflTransGen r.MetaStep n c := by
  refine ⟨?_, (Graph.transGen_of_isChain h hn).to_reflTransGen⟩
  rcases List.mem_cons.mp hn with rfl | hn
  · exact ReflTransGen.refl
  · -- Cut the cycle at `n`: the part before it is a chain from `c` to `n`.
    obtain ⟨before, after, rfl⟩ := List.append_of_mem hn
    have hcut : (c :: before ++ [n]).IsChain r.MetaStep := by
      have hsplit : c :: (before ++ n :: after) ++ [c] = (c :: before ++ [n]) ++ (after ++ [c]) := by
        simp
      rw [hsplit] at h
      exact h.left_of_append
    exact (Graph.transGen_of_isChain hcut (List.mem_cons_self ..)).to_reflTransGen

/-- A way from a type back to itself, as a list. -/
theorem isMetaCycle_of_transGen (h : TransGen r.MetaStep t t) :
    ∃ rest, (t :: rest ++ [t]).IsChain r.MetaStep := by
  obtain ⟨d, hfirst, hback⟩ := TransGen.head'_iff.mp h
  obtain ⟨l, hchain, hlast⟩ := List.exists_isChain_cons_of_relationReflTransGen hback
  have hl : d :: l = (d :: l).dropLast ++ [t] := by
    rw [← hlast]
    exact (List.dropLast_append_getLast (List.cons_ne_nil d l)).symm
  refine ⟨(d :: l).dropLast, ?_⟩
  rw [List.cons_append, ← hl]
  exact List.isChain_cons_cons.mpr ⟨hfirst, hchain⟩

/-- One type of the cycle stands for all of them. -/
theorem leadsToGuardCycle_iff : r.LeadsToGuardCycle t ↔
    ∃ c, ReflTransGen r.MetaStep t c ∧ TransGen r.MetaStep c c ∧ r.LeadsToMarked c := by
  constructor
  · intro ⟨cycle, hcycle, ⟨n, hn, hreach⟩, hall⟩
    obtain ⟨c, rest, rfl, hchain⟩ := hcycle
    have hfirst : c ∈ c :: rest := List.mem_cons_self ..
    exact ⟨c, hreach.trans (reach_of_isChain_cycle hchain hn).2,
      Graph.transGen_of_isChain hchain hfirst, hall c hfirst⟩
  · intro ⟨c, hreach, hcycle, hc⟩
    obtain ⟨rest, hchain⟩ := isMetaCycle_of_transGen hcycle
    refine ⟨c :: rest, ⟨c, rest, rfl, hchain⟩, ⟨c, List.mem_cons_self .., hreach⟩, ?_⟩
    intro n hn
    exact hc.of_reach (reach_of_isChain_cycle hchain hn).2

end Registry

/-! ## Verdicts -/

theorem classify_of_not_annotation (h : r.isAnnotation t = false) :
    classify r t = .ok false := by
  unfold classify
  simp [h]

/-- The type around which a graph was built is a guard of it if it leads to a
    marked one. -/
theorem mem_guards_build_iff : t ∈ (MetaGraph.build r t).guards ↔ r.LeadsToMarked t := by
  rw [(MetaGraph.build_spans r t).mem_guards]
  exact and_iff_right ReflTransGen.refl

theorem classify_of_not_leadsToMarked (h : ¬ r.LeadsToMarked t) : classify r t = .ok false := by
  unfold classify
  simp [mem_guards_build_iff, h]

theorem classify_of_guardCycle_eq_some (hann : r.isAnnotation t = true) (h : r.LeadsToMarked t)
    {cycle : List TypeId} (hcycle : (MetaGraph.build r t).guardCycle t = some cycle) :
    classify r t = .error ⟨cycle, cycle.map r.qualifiedName⟩ := by
  unfold classify
  simp [hann, mem_guards_build_iff, h, hcycle]

theorem classify_of_guardCycle_eq_none (hann : r.isAnnotation t = true) (h : r.LeadsToMarked t)
    (hcycle : (MetaGraph.build r t).guardCycle t = none) : classify r t = .ok true := by
  unfold classify
  simp [hann, mem_guards_build_iff, h, hcycle]

theorem classify_of_leadsToGuardCycle (hann : r.isAnnotation t = true)
    (h : r.LeadsToGuardCycle t) : ∃ e, classify r t = .error e := by
  have hcycle := (MetaGraph.build_spans r t).guardCycle_ne_none_iff.mpr
    (Registry.leadsToGuardCycle_iff.mp h)
  obtain ⟨cycle, hsome⟩ := Option.ne_none_iff_exists'.mp hcycle
  exact ⟨_, classify_of_guardCycle_eq_some hann h.leadsToMarked hsome⟩

theorem classify_of_not_leadsToGuardCycle (hann : r.isAnnotation t = true)
    (h : r.LeadsToMarked t) (hno : ¬ r.LeadsToGuardCycle t) : classify r t = .ok true := by
  rw [Registry.leadsToGuardCycle_iff, ← (MetaGraph.build_spans r t).guardCycle_ne_none_iff,
    not_not] at hno
  exact classify_of_guardCycle_eq_none hann h hno

/-- A type is no guard if it is no annotation type, or leads to no marked one. -/
theorem classify_eq_ok_false_iff :
    classify r t = .ok false ↔ ¬ (r.isAnnotation t = true) ∨ ¬ r.LeadsToMarked t := by
  constructor
  · intro h
    by_contra hboth
    rw [not_or, not_not, not_not] at hboth
    by_cases hcycle : r.LeadsToGuardCycle t
    · obtain ⟨e, he⟩ := classify_of_leadsToGuardCycle hboth.1 hcycle
      rw [he] at h
      cases h
    · rw [classify_of_not_leadsToGuardCycle hboth.1 hboth.2 hcycle] at h
      cases h
  · intro h
    rcases h with hann | hmarked
    · exact classify_of_not_annotation (Bool.eq_false_iff.mpr hann)
    · exact classify_of_not_leadsToMarked hmarked

/-- A type is circular if it is an annotation type that leads to a cycle of guards. -/
theorem exists_classify_eq_error_iff :
    (∃ e, classify r t = .error e) ↔ r.isAnnotation t = true ∧ r.LeadsToGuardCycle t := by
  constructor
  · intro ⟨e, he⟩
    have hguard : r.isAnnotation t = true ∧ r.LeadsToMarked t := by
      by_contra hnot
      rw [not_and_or] at hnot
      rw [classify_eq_ok_false_iff.mpr hnot] at he
      cases he
    refine ⟨hguard.1, ?_⟩
    by_contra hno
    rw [classify_of_not_leadsToGuardCycle hguard.1 hguard.2 hno] at he
    cases he
  · intro ⟨hann, hcycle⟩
    exact classify_of_leadsToGuardCycle hann hcycle

/-- A type is a guard if it is an annotation type that leads to a marked one and
    to no cycle of guards. -/
theorem classify_eq_ok_true_iff :
    classify r t = .ok true ↔
      r.isAnnotation t = true ∧ r.LeadsToMarked t ∧ ¬ r.LeadsToGuardCycle t := by
  constructor
  · intro h
    have hguard : r.isAnnotation t = true ∧ r.LeadsToMarked t := by
      by_contra hnot
      rw [not_and_or] at hnot
      rw [classify_eq_ok_false_iff.mpr hnot] at h
      cases h
    refine ⟨hguard.1, hguard.2, fun hcycle => ?_⟩
    obtain ⟨e, he⟩ := classify_of_leadsToGuardCycle hguard.1 hcycle
    rw [he] at h
    cases h
  · intro ⟨hann, hmarked, hno⟩
    exact classify_of_not_leadsToGuardCycle hann hmarked hno

/-- **Exactness of classification.** On any registry, a type is no guard exactly
    if it is no annotation type or no marked type can be reached from it along
    metas; it is circular exactly if it is an annotation type from which a cycle
    of metas can be reached whose types themselves reach a marked one; and it is
    a guard in all other cases. -/
theorem classify_exact (r : Registry σ) (t : TypeId) :
    (classify r t = .ok false ↔ ¬ (r.isAnnotation t = true) ∨ ¬ r.LeadsToMarked t) ∧
    ((∃ e, classify r t = .error e) ↔ r.isAnnotation t = true ∧ r.LeadsToGuardCycle t) ∧
    (classify r t = .ok true ↔
      r.isAnnotation t = true ∧ r.LeadsToMarked t ∧ ¬ r.LeadsToGuardCycle t) :=
  ⟨classify_eq_ok_false_iff, exists_classify_eq_error_iff, classify_eq_ok_true_iff⟩

end AnnotationGuards
