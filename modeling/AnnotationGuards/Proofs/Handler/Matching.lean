import AnnotationGuards.Handler.Matching
import Mathlib.Data.List.Basic

/-! # Where matched tests come from

    Whatever the type of a target, the test that is matched to it is one of those
    that the handler class declares.

    * `MatchedTest.mem_of_choose`: the choice among tests, step by step.
    * `MatchedTest.exists_handler_of_find`: the search for a test in a registry.
    * `MatchedTest.Fits`, `MatchedTest.fits_of_find`: how the test fits the type of the
      target, and what values are widened to. -/

namespace AnnotationGuards

variable {σ : Type} {r : Registry σ} {tests : List (Test σ)} {m : MatchedTest σ} {t : TypeId}

theorem Choice.eq_singleton_of_ofList {α : Type} {candidates : List α} {a : α}
    (h : Choice.ofList candidates = .unique a) : candidates = [a] := by
  match candidates with
  | [] => cases h
  | [_] => cases h; rfl
  | _ :: _ :: _ => cases h

namespace MatchedTest

/-- The only candidate is one of the tests, with the widening of all of them. -/
theorem mem_among_of_ofList {among : List (Test σ)} {widenTo : Option Primitive}
    (h : Choice.ofList (among.map (MatchedTest.mk · widenTo)) = .unique m) :
    m.test ∈ among ∧ m.widenTo = widenTo := by
  have hsingle := Choice.eq_singleton_of_ofList h
  have hmem : m ∈ among.map (MatchedTest.mk · widenTo) := by
    rw [hsingle]
    exact List.mem_singleton_self m
  obtain ⟨test, htest, rfl⟩ := List.mem_map.mp hmem
  exact ⟨htest, rfl⟩

/-- The only candidate, where each one is a test of the list as it is received. -/
theorem mem_of_ofList {among : List (Test σ)} {widenTo : Option Primitive} (hsub : among ⊆ tests)
    (h : Choice.ofList (among.map (MatchedTest.mk · widenTo)) = .unique m) : m.test ∈ tests :=
  hsub (mem_among_of_ofList h).1

theorem leastOf_subset : leastOf r (applicable r tests t) ⊆ tests :=
  List.Subset.trans (List.filter_subset_self _) (List.filter_subset_self _)

theorem mem_of_mostSpecific (h : mostSpecific r tests t = .unique m) : m.test ∈ tests := by
  unfold mostSpecific at h
  dsimp only at h
  split at h
  · split at h <;> cases h
  · exact mem_of_ofList leastOf_subset h

theorem mem_of_alongChain {source : Primitive} {chain : List Primitive}
    (h : alongChain tests source chain = .unique m) : m.test ∈ tests := by
  induction chain with
  | nil => cases h
  | cons step rest ih =>
    unfold alongChain at h
    dsimp only at h
    split at h
    · exact ih h
    · exact mem_of_ofList (List.filter_subset_self _) h

/-- A reference, a primitive, or a wrapper that is unboxed: the choice is a test of
    the list in each case. -/
theorem mem_of_choose {testsNull : Bool} (h : choose r tests testsNull t = .unique m) :
    m.test ∈ tests := by
  unfold choose at h
  split at h
  · exact mem_of_alongChain h
  · split at h
    · split at h
      · cases h
      · split at h
        · exact mem_of_alongChain h
        · cases h
    · exact mem_of_mostSpecific h

theorem exists_choice_of_find {guard : String} {testsNull : Bool} {h : TypeId}
    {target : GenericType} (hfind : find r guard testsNull h target = .ok m) :
    ∃ handler, r.handler? h = some handler ∧
      choose r handler.tests testsNull target.raw = .unique m := by
  unfold find at hfind
  cases hhandler : r.handler? h with
  | none => rw [hhandler] at hfind; cases hfind
  | some handler =>
    rw [hhandler] at hfind
    dsimp only at hfind
    split at hfind
    · next found hchoose =>
      cases hfind
      exact ⟨handler, rfl, hchoose⟩
    · cases hfind
    · cases hfind

theorem exists_handler_of_find {guard : String} {testsNull : Bool} {h : TypeId}
    {target : GenericType} (hfind : find r guard testsNull h target = .ok m) :
    ∃ handler, r.handler? h = some handler ∧ m.test ∈ handler.tests := by
  obtain ⟨handler, hhandler, hchoose⟩ := exists_choice_of_find hfind
  exact ⟨handler, hhandler, mem_of_choose hchoose⟩

/-! ## How a matched test fits the type -/

/-- The test is declared for the primitive itself, or for one that it widens to; then
    values are widened to this one. -/
structure Along (m : MatchedTest σ) (p step : Primitive) : Prop where
  canWiden : p.canWiden step = true
  param_eq : m.test.param = step.typeId
  widenTo_eq : m.widenTo = if step = p then none else some step

/-- How a test fits a static type: as a reference type, by the widening chain of the
    type, or by that of the type in the box. A null cannot be unboxed. -/
inductive Fits (r : Registry σ) (testsNull : Bool) (t : TypeId) (m : MatchedTest σ) : Prop
  | reference (htype : r.primitive? t = none) (hparam : r.primitive? m.test.param = none)
    (hwiden : m.widenTo = none) : Fits r testsNull t m
  | primitive {p step : Primitive} (htype : r.primitive? t = some p) (h : m.Along p step) :
    Fits r testsNull t m
  | unboxed {p step : Primitive} (htype : r.primitive? t = none) (hbox : r.unboxed? t = some p)
    (hnull : testsNull = false) (h : m.Along p step) : Fits r testsNull t m

theorem fits_of_mostSpecific {testsNull : Bool} (htype : r.primitive? t = none)
    (h : mostSpecific r tests t = .unique m) : Fits r testsNull t m := by
  unfold mostSpecific at h
  dsimp only at h
  split at h
  · split at h <;> cases h
  · obtain ⟨hmem, hwiden⟩ := mem_among_of_ofList h
    have happlicable : m.test ∈ applicable r tests t := List.filter_subset_self _ hmem
    have hparam := (List.mem_filter.mp happlicable).2
    rw [Bool.and_eq_true, Option.isNone_iff_eq_none] at hparam
    exact .reference htype hparam.1 hwiden

/-- The induction goes along the chain, up to the first type that some test is declared
    for. -/
theorem exists_along_of_alongChain {p : Primitive} {chain : List Primitive}
    (hchain : ∀ step ∈ chain, p.canWiden step = true) (h : alongChain tests p chain = .unique m) :
    ∃ step, m.Along p step := by
  induction chain with
  | nil => cases h
  | cons step rest ih =>
    obtain ⟨hstep, hrest⟩ := List.forall_mem_cons.mp hchain
    unfold alongChain at h
    dsimp only at h
    split at h
    · exact ih hrest h
    · obtain ⟨hmem, hwiden⟩ := mem_among_of_ofList h
      have hparam : m.test.param = step.typeId := of_decide_eq_true (List.mem_filter.mp hmem).2
      exact ⟨step, hstep, hparam, hwiden⟩

theorem exists_along_of_nearest {p : Primitive} (h : nearest tests p = .unique m) :
    ∃ step, m.Along p step := by
  apply exists_along_of_alongChain _ h
  intro step hstep
  exact List.contains_iff_mem.mpr hstep

theorem fits_of_choose {testsNull : Bool} (h : choose r tests testsNull t = .unique m) :
    Fits r testsNull t m := by
  unfold choose at h
  split at h
  · next p htype =>
    obtain ⟨step, hstep⟩ := exists_along_of_nearest h
    exact .primitive htype hstep
  · next htype =>
    split at h
    · split at h
      · cases h
      · next hnull =>
        split at h
        · next p hbox =>
          obtain ⟨step, hstep⟩ := exists_along_of_nearest h
          exact .unboxed htype hbox (Bool.eq_false_iff.mpr hnull) hstep
        · cases h
    · exact fits_of_mostSpecific htype h

/-- **The test that is found** fits the type of the target. -/
theorem fits_of_find {guard : String} {testsNull : Bool} {h : TypeId} {target : GenericType}
    (hfind : find r guard testsNull h target = .ok m) : Fits r testsNull target.raw m := by
  obtain ⟨handler, -, hchoose⟩ := exists_choice_of_find hfind
  exact fits_of_choose hchoose

end MatchedTest

end AnnotationGuards
