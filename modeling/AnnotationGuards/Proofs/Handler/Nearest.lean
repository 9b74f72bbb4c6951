import AnnotationGuards.Proofs.Handler.Overloads
import AnnotationGuards.Proofs.Program.Widening

/-! # The nearest type that has a test

    A primitive target, and one that is unboxed, is judged by a test for the first type in
    the widening chain of its primitive that any test is declared for. What is declared
    further along the chain is not looked at, not even to settle a tie.

    * `MatchedTest.testsFor`, `MatchedTest.IsNearest`: the tests for a primitive, and the
      first type in a chain that has tests.
    * `MatchedTest.GoesAlong`: a type whose values are judged along a chain.
    * `MatchedTest.find_eq_ok_iff_nearest`: a test is found exactly if it is the only one
      for that type.
    * **`MatchedTest.nearest_widening`**: this, and what becomes of ties, of chains without
      a test, and of all other types. -/

namespace AnnotationGuards

variable {σ : Type} {r : Registry σ} {tests : List (Test σ)} {t : TypeId} {p step : Primitive}

/-- Each type in a widening chain widens to all that come after it. -/
theorem Primitive.pairwise_chain (p : Primitive) :
    p.chain.Pairwise fun a b => a.canWiden b = true := by
  cases p <;> decide

namespace MatchedTest

/-! ## The first type that has tests -/

/-- The tests that are declared for a primitive. -/
def testsFor (tests : List (Test σ)) (p : Primitive) : List (Test σ) :=
  tests.filter fun m => m.param = p.typeId

/-- Of the types in the widening chain of `p`, itself included, `step` is the first one
    that has tests. -/
structure IsNearest (tests : List (Test σ)) (p step : Primitive) : Prop where
  tested : testsFor tests step ≠ []
  first : ∃ before after, p.chain = before ++ step :: after ∧
    ∀ q ∈ before, testsFor tests q = []

theorem mem_testsFor {m : Test σ} : m ∈ testsFor tests p ↔ m ∈ tests ∧ m.param = p.typeId := by
  simp [testsFor]

/-- Some type in the chain is the first one that has tests, unless none has any. -/
theorem exists_isNearest (tests : List (Test σ)) (p : Primitive) :
    (∃ step, IsNearest tests p step) ∨ ∀ q ∈ p.chain, testsFor tests q = [] := by
  cases hfirst : p.chain.find? fun q => !(testsFor tests q).isEmpty with
  | none =>
    refine .inr fun q hq => ?_
    simpa using List.find?_eq_none.mp hfirst q hq
  | some step =>
    obtain ⟨htested, before, after, hsplit, hbefore⟩ := List.find?_eq_some_iff_append.mp hfirst
    refine .inl ⟨step, by simpa using htested, before, after, hsplit, fun q hq => ?_⟩
    simpa using hbefore q hq

/-- For the first type that has tests there is one, or there are several. -/
theorem isNearest_cases (tests : List (Test σ)) (p : Primitive) :
    (∃ step m, IsNearest tests p step ∧ testsFor tests step = [m]) ∨
      (∃ step, IsNearest tests p step ∧ 2 ≤ (testsFor tests step).length) ∨
      ∀ q ∈ p.chain, testsFor tests q = [] := by
  rcases exists_isNearest tests p with ⟨step, hnearest⟩ | hnone
  · match hfor : testsFor tests step with
    | [] => exact absurd hfor hnearest.tested
    | [m] => exact .inl ⟨step, m, hnearest, hfor⟩
    | _ :: _ :: _ => exact .inr (.inl ⟨step, hnearest, by rw [hfor]; simp⟩)
  · exact .inr (.inr hnone)

/-- All tests for types in the chain are for types that the nearest one widens to. -/
theorem IsNearest.canWiden (h : IsNearest tests p step) {m : Test σ} (hm : m ∈ tests)
    {q : Primitive} (hparam : m.param = q.typeId) (hq : p.canWiden q = true) :
    step.canWiden q = true := by
  obtain ⟨before, after, hsplit, hbefore⟩ := h.first
  have hmem : q ∈ before ++ step :: after := by
    rw [← hsplit]
    exact List.contains_iff_mem.mp hq
  rcases List.mem_append.mp hmem with hq | hq
  · -- Before the nearest type there are no tests.
    have hm' : m ∈ testsFor tests q := mem_testsFor.mpr ⟨hm, hparam⟩
    rw [hbefore q hq] at hm'
    cases hm'
  · rcases List.mem_cons.mp hq with rfl | hq
    · exact List.contains_iff_mem.mpr (List.mem_cons_self ..)
    · have hpairs := p.pairwise_chain
      rw [hsplit] at hpairs
      exact (List.pairwise_cons.mp (List.pairwise_append.mp hpairs).2.1).1 q hq

/-! ## The walk along a chain -/

theorem alongChain_of_none {chain : List Primitive} (h : ∀ q ∈ chain, testsFor tests q = []) :
    alongChain tests p chain = .nothing := by
  induction chain with
  | nil => rfl
  | cons q rest ih =>
    obtain ⟨hq, hrest⟩ := List.forall_mem_cons.mp h
    unfold testsFor at hq
    unfold alongChain
    simp only [hq]
    exact ih hrest

/-- The walk ends at the first type that has tests, with all of these. -/
theorem alongChain_of_first {before after : List Primitive} (htested : testsFor tests step ≠ [])
    (hbefore : ∀ q ∈ before, testsFor tests q = []) :
    alongChain tests p (before ++ step :: after) =
      .ofList ((testsFor tests step).map
        (MatchedTest.mk · (if step = p then none else some step))) := by
  -- Types without tests are passed over one by one.
  induction before with
  | nil =>
    show alongChain tests p (step :: after) = _
    unfold alongChain testsFor
    dsimp only
    split
    · next hnone => exact absurd hnone htested
    · rfl
  | cons q rest ih =>
    obtain ⟨hq, hrest⟩ := List.forall_mem_cons.mp hbefore
    unfold testsFor at hq
    rw [List.cons_append]
    unfold alongChain
    simp only [hq]
    exact ih hrest

theorem IsNearest.nearest_eq (h : IsNearest tests p step) :
    nearest tests p = .ofList ((testsFor tests step).map
      (MatchedTest.mk · (if step = p then none else some step))) := by
  obtain ⟨before, after, hsplit, hbefore⟩ := h.first
  unfold nearest
  rw [hsplit]
  exact alongChain_of_first h.tested hbefore

/-! ## Types that are judged along a chain -/

/-- Values of type `t` are judged along the widening chain of `p`: this is their type, or
    it is the one in their box. They are unboxed only where no test applies to the type as
    it is, and where the guard does not test null. -/
inductive GoesAlong (r : Registry σ) (tests : List (Test σ)) (testsNull : Bool) (t : TypeId)
    (p : Primitive) : Prop
  | primitive (htype : r.primitive? t = some p) : GoesAlong r tests testsNull t p
  | unboxed (htype : r.primitive? t = none) (hbox : r.unboxed? t = some p)
    (hnull : testsNull = false) (hnone : ∀ m ∈ tests, ¬ m.AppliesTo r t) :
    GoesAlong r tests testsNull t p

variable {testsNull : Bool}

theorem mostSpecific_of_none (hnone : ∀ m ∈ tests, ¬ m.AppliesTo r t) :
    mostSpecific r tests t = .nothing := by
  have happlicable : applicable r tests t = [] := by
    rw [applicable_eq, List.filter_eq_nil_iff]
    intro m hm
    rw [decide_eq_true_iff]
    exact hnone m hm
  unfold mostSpecific
  rw [happlicable]
  rfl

theorem GoesAlong.choose_eq (h : GoesAlong r tests testsNull t p) :
    choose r tests testsNull t = nearest tests p := by
  unfold choose
  cases h with
  | primitive htype => simp only [htype]
  | unboxed htype hbox hnull hnone =>
    simp only [htype, mostSpecific_of_none hnone, hnull, hbox]
    rfl

theorem choose_of_not_goesAlong (hnone : ∀ m ∈ tests, ¬ m.AppliesTo r t)
    (hnot : ¬ ∃ p, GoesAlong r tests testsNull t p) : choose r tests testsNull t = .nothing := by
  unfold choose
  cases htype : r.primitive? t with
  | some p => exact absurd ⟨p, .primitive htype⟩ hnot
  | none =>
    simp only [mostSpecific_of_none hnone]
    split
    · rfl
    · next hnull =>
      cases hbox : r.unboxed? t with
      | none => rfl
      | some p =>
        exact absurd ⟨p, .unboxed htype hbox (Bool.eq_false_iff.mpr hnull) hnone⟩ hnot

/-! ## The search -/

/-- What is said where no test is found. -/
def absence (r : Registry σ) (guard : String) (h : TypeId) (target : GenericType) : GuardError :=
  .noTest guard (r.qualifiedName h) (r.renderType target)

section

variable {h : TypeId} {handler : Handler σ} {target : GenericType} (guard : String)
  (hhandler : r.handler? h = some handler)

include hhandler

theorem find_of_nothing (hchoose : choose r handler.tests testsNull target.raw = .nothing) :
    find r guard testsNull h target = .error (absence r guard h target) := by
  unfold find absence
  simp only [hhandler, hchoose]

variable (halong : GoesAlong r handler.tests testsNull target.raw p)

include halong

theorem find_of_untested (hnone : ∀ q ∈ p.chain, testsFor handler.tests q = []) :
    find r guard testsNull h target = .error (absence r guard h target) := by
  apply find_of_nothing guard hhandler
  rw [halong.choose_eq]
  exact alongChain_of_none hnone

theorem find_of_only {m : Test σ} (hnearest : IsNearest handler.tests p step)
    (honly : testsFor handler.tests step = [m]) :
    find r guard testsNull h target = .ok ⟨m, if step = p then none else some step⟩ := by
  apply find_of_unique guard testsNull hhandler
  rw [halong.choose_eq, hnearest.nearest_eq, honly]
  rfl

theorem find_of_several (hnearest : IsNearest handler.tests p step)
    (hseveral : 2 ≤ (testsFor handler.tests step).length) :
    find r guard testsNull h target =
      .error (ambiguity r guard h target (testsFor handler.tests step)) := by
  apply find_of_tied guard testsNull hhandler
  rw [halong.choose_eq, hnearest.nearest_eq]
  match testsFor handler.tests step, hseveral with
  | _ :: _ :: _, _ => rfl

/-- **A test is found** exactly if it is the only one for the nearest type that has tests.
    Values are widened to this type, unless it is their own. -/
theorem find_eq_ok_iff_nearest (found : MatchedTest σ) :
    find r guard testsNull h target = .ok found ↔
      ∃ step, IsNearest handler.tests p step ∧ testsFor handler.tests step = [found.test] ∧
        found.widenTo = if step = p then none else some step := by
  constructor
  · intro hfind
    rcases isNearest_cases handler.tests p with ⟨step, m, hnearest, honly⟩ | hseveral | hnone
    · rw [find_of_only guard hhandler halong hnearest honly] at hfind
      cases hfind
      exact ⟨step, hnearest, honly, rfl⟩
    · obtain ⟨step, hnearest, hseveral⟩ := hseveral
      rw [find_of_several guard hhandler halong hnearest hseveral] at hfind
      cases hfind
    · rw [find_of_untested guard hhandler halong hnone] at hfind
      cases hfind
  · rintro ⟨step, hnearest, honly, hwiden⟩
    rw [find_of_only guard hhandler halong hnearest honly, ← hwiden]

theorem find_eq_absence_iff :
    find r guard testsNull h target = .error (absence r guard h target) ↔
      ∀ q ∈ p.chain, testsFor handler.tests q = [] := by
  constructor
  · intro hfind
    rcases isNearest_cases handler.tests p with ⟨step, m, hnearest, honly⟩ | hseveral | hnone
    · rw [find_of_only guard hhandler halong hnearest honly] at hfind
      cases hfind
    · obtain ⟨step, hnearest, hseveral⟩ := hseveral
      rw [find_of_several guard hhandler halong hnearest hseveral] at hfind
      cases hfind
    · exact hnone
  · exact find_of_untested guard hhandler halong

end

/-- **The nearest type wins, and what is further along never settles a tie.** Take a target
    whose values are judged along the widening chain of a primitive `p`: a target of type
    `p`, or one whose class boxes `p` and to which no reference test applies, on behalf of
    a guard that does not test null.

    1. A test is found exactly if it is the only one for the first type in the chain that
       has tests.
    2. If this type has two or more tests, the search fails and names all of them.
    3. The search finds nothing exactly if no type in the chain has a test.
    4. Values are widened to the type of the test that is found, unless this type is `p`
       itself. It widens to the type of every test that `p` could be widened for.

    All other targets to which no reference test applies have no test. -/
theorem nearest_widening {h : TypeId} {handler : Handler σ} {target : GenericType}
    (guard : String) (testsNull : Bool) (hhandler : r.handler? h = some handler) :
    (∀ p, GoesAlong r handler.tests testsNull target.raw p →
      (∀ found, find r guard testsNull h target = .ok found ↔
        ∃ step, IsNearest handler.tests p step ∧ testsFor handler.tests step = [found.test] ∧
          found.widenTo = if step = p then none else some step) ∧
      (∀ step, IsNearest handler.tests p step → 2 ≤ (testsFor handler.tests step).length →
        find r guard testsNull h target =
          .error (ambiguity r guard h target (testsFor handler.tests step))) ∧
      (find r guard testsNull h target = .error (absence r guard h target) ↔
        ∀ q ∈ p.chain, testsFor handler.tests q = []) ∧
      (∀ found, find r guard testsNull h target = .ok found →
        ∃ step : Primitive, found.test.param = step.typeId ∧
          (found.widenTo = none ↔ step = p) ∧ (step ≠ p → found.widenTo = some step) ∧
          ∀ m ∈ handler.tests, ∀ q : Primitive, m.param = q.typeId → p.canWiden q = true →
            step.canWiden q = true)) ∧
    ((∀ m ∈ handler.tests, ¬ m.AppliesTo r target.raw) →
      (¬ ∃ p, GoesAlong r handler.tests testsNull target.raw p) →
      find r guard testsNull h target = .error (absence r guard h target)) := by
  constructor
  · intro p halong
    have hfound := find_eq_ok_iff_nearest guard hhandler halong
    refine ⟨hfound, ?_, find_eq_absence_iff guard hhandler halong, ?_⟩
    · intro step
      exact find_of_several guard hhandler halong
    · intro found hfind
      obtain ⟨step, hnearest, honly, hwiden⟩ := (hfound found).mp hfind
      have hmem : found.test ∈ testsFor handler.tests step := by
        rw [honly]
        exact List.mem_singleton_self _
      refine ⟨step, (mem_testsFor.mp hmem).2, ?_, ?_, ?_⟩
      · rw [hwiden]
        simp
      · intro hne
        rw [hwiden, if_neg hne]
      · intro m hm q hparam hq
        exact hnearest.canWiden hm hparam hq
  · intro hnone hnot
    exact find_of_nothing guard hhandler (choose_of_not_goesAlong hnone hnot)

end MatchedTest

/-! ## A box and its chain -/

namespace Sample.Boxed

def counter : TypeId := ⟨34⟩
def handlerClass : TypeId := ⟨35⟩

/-- The test for long values is declared before the nearer one for int values, and there
    are two for double values. -/
def code : Handler Unit where
  tests := [.long, .int, .double, .string, .double].map fun t =>
    { label := .silent, param := t, run? := fun _ => some fun _ => .ok true }

/-- A class that boxes a short. -/
def registry : Registry Unit where
  types := Registry.builtinTypes ++ [
    { name := "Counter", package := "app", kind := .classType { boxes := some .short } },
    { name := "CounterHandler", package := "app"
      kind := .classType { supertypes := [.guardHandler], handler := some code } }]

end Sample.Boxed

namespace MatchedTest

open Sample.Boxed

/-- A short from its box is widened to an int. A float could be widened for two tests, which
    are tied. A boolean has no test, and neither has the box where null is tested. -/
theorem nearest_widening_boxed :
    (∃ m, find registry "app.Guard" false handlerClass (.ofRaw counter) = .ok ⟨m, some .int⟩ ∧
      m.param = .int) ∧
    find registry "app.Guard" false handlerClass (.ofRaw .float) =
      .error (.ambiguousTest "app.Guard" "app.CounterHandler" "float"
        ["test(double)", "test(double)"]) ∧
    find registry "app.Guard" false handlerClass (.ofRaw .boolean) =
      .error (.noTest "app.Guard" "app.CounterHandler" "boolean") ∧
    find registry "app.Guard" true handlerClass (.ofRaw counter) =
      .error (.noTest "app.Guard" "app.CounterHandler" "Counter") := by
  have hsearch (t : TypeId) (testsNull : Bool) :=
    @nearest_widening _ registry handlerClass code (.ofRaw t) "app.Guard" testsNull rfl
  have hnone : ∀ m ∈ code.tests, ¬ m.AppliesTo registry counter := by decide
  refine ⟨?_, ?_, ?_, ?_⟩
  · have halong : GoesAlong registry code.tests false counter .short :=
      .unboxed rfl rfl rfl hnone
    have hnearest : IsNearest code.tests .short .int :=
      ⟨List.cons_ne_nil _ _, [.short], [.long, .float, .double], rfl,
        List.forall_mem_singleton.mpr rfl⟩
    obtain ⟨hfound, -⟩ := (hsearch counter false).1 .short halong
    exact ⟨_, (hfound ⟨_, some .int⟩).mpr ⟨.int, hnearest, rfl, rfl⟩, rfl⟩
  · have hnearest : IsNearest code.tests .float .double :=
      ⟨List.cons_ne_nil _ _, [.float], [], rfl, List.forall_mem_singleton.mpr rfl⟩
    obtain ⟨-, hties, -⟩ := (hsearch .float false).1 .float (.primitive rfl)
    exact hties .double hnearest (Nat.le_refl 2)
  · obtain ⟨-, -, habsent, -⟩ := (hsearch .boolean false).1 .boolean (.primitive rfl)
    exact habsent.mpr (List.forall_mem_singleton.mpr rfl)
  · refine (hsearch counter true).2 hnone ?_
    rintro ⟨p, ⟨htype⟩ | ⟨-, -, hnull, -⟩⟩
    · cases htype
    · cases hnull

end MatchedTest

end AnnotationGuards
