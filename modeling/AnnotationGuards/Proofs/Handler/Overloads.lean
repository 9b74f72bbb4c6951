import AnnotationGuards.Handler.Matching
import AnnotationGuards.Proofs.Registry.Subtyping

/-! # The most specific test

    A reference target is judged by the test whose parameter is assignable to the
    parameters of all tests that apply. Supertypes may be declared in circles, and two
    tests may be declared for one type, so there may be several such tests, or none. A tie
    is never broken.

    * `Test.AppliesTo`: a test that a reference type may be handed to.
    * `Test.IsLeastOf`, `Test.IsSoleLeastOf`: a test that is as specific as every test of
      a list, and the only entry of the list that is.
    * `MatchedTest.find_eq_ok_iff`: a test is found exactly if it is the only least one.
    * `MatchedTest.find_of_no_sole`: otherwise the tied tests are named.
    * **`MatchedTest.most_specific_overload`**: both, and what becomes of a test that is
      declared for the very type of the target. -/

namespace AnnotationGuards

variable {σ : Type} {r : Registry σ} {tests : List (Test σ)} {m : Test σ} {t : TypeId}

/-! ## What is compared -/

/-- What stands alone in a filtered list is its one entry that passes. -/
theorem filter_eq_singleton_iff {α : Type} {keep : α → Bool} {items : List α} {a : α} :
    items.filter keep = [a] ↔ ∃ before after, items = before ++ a :: after ∧ keep a = true ∧
      ∀ b ∈ before ++ after, ¬ keep b = true := by
  rw [List.filter_eq_cons_iff]
  constructor
  · rintro ⟨before, after, rfl, hbefore, ha, hafter⟩
    refine ⟨before, after, rfl, ha, ?_⟩
    intro b hb
    rcases List.mem_append.mp hb with hb | hb
    · exact hbefore b hb
    · exact List.filter_eq_nil_iff.mp hafter b hb
  · rintro ⟨before, after, rfl, ha, hothers⟩
    have hbefore : ∀ b ∈ before, ¬ keep b = true := fun b hb =>
      hothers b (List.mem_append_left _ hb)
    have hafter : ∀ b ∈ after, ¬ keep b = true := fun b hb =>
      hothers b (List.mem_append_right _ hb)
    exact ⟨before, after, rfl, hbefore, ha, List.filter_eq_nil_iff.mpr hafter⟩

namespace Test

/-- The test has a reference parameter to which the type is assignable. -/
structure AppliesTo (r : Registry σ) (t : TypeId) (m : Test σ) : Prop where
  reference : r.primitive? m.param = none
  assignable : r.Assignable t m.param

/-- The parameter of the test is assignable to the parameter of every test of the list. -/
def IsLeastOf (r : Registry σ) (m : Test σ) (tests : List (Test σ)) : Prop :=
  ∀ o ∈ tests, r.Assignable m.param o.param

/-- Of the entries of the list this test is the only least one. A test that stands in the
    list twice is not. -/
def IsSoleLeastOf (r : Registry σ) (m : Test σ) (tests : List (Test σ)) : Prop :=
  ∃ before after, tests = before ++ m :: after ∧ m.IsLeastOf r tests ∧
    ∀ o ∈ before ++ after, ¬ o.IsLeastOf r tests

theorem appliesTo_iff :
    m.AppliesTo r t ↔ ((r.primitive? m.param).isNone && r.isAssignable t m.param) = true := by
  rw [Bool.and_eq_true, Option.isNone_iff_eq_none, Registry.isAssignable_iff]
  exact ⟨fun h => ⟨h.reference, h.assignable⟩, fun h => ⟨h.1, h.2⟩⟩

instance : Decidable (m.AppliesTo r t) := decidable_of_iff' _ appliesTo_iff

instance : Decidable (m.IsLeastOf r tests) :=
  inferInstanceAs (Decidable (∀ o ∈ tests, r.Assignable m.param o.param))

theorem isSoleLeastOf_iff :
    m.IsSoleLeastOf r tests ↔ (tests.filter fun o => o.IsLeastOf r tests) = [m] := by
  rw [filter_eq_singleton_iff]
  simp [IsSoleLeastOf]

/-- Where an entry is the only least one, the entries around it are not least. -/
theorem IsSoleLeastOf.not_isLeastOf {before after : List (Test σ)} (h : m.IsSoleLeastOf r tests)
    (hsplit : tests = before ++ m :: after) (hleast : m.IsLeastOf r tests) :
    ∀ o ∈ before ++ after, ¬ o.IsLeastOf r tests := by
  have hsole := isSoleLeastOf_iff.mp h
  -- The least entries are this one, those before it and those after it.
  have hparts : (before ++ m :: after).filter (fun o => o.IsLeastOf r tests) = [m] := by
    rw [← hsplit]
    exact hsole
  rw [List.filter_append, List.filter_cons_of_pos (by simpa using hleast)] at hparts
  have hlength := congrArg List.length hparts
  simp only [List.length_append, List.length_cons, List.length_nil] at hlength
  have hnone : (before ++ after).filter (fun o => o.IsLeastOf r tests) = [] := by
    rw [List.filter_append, ← List.length_eq_zero_iff, List.length_append]
    omega
  intro o ho hoLeast
  exact List.filter_eq_nil_iff.mp hnone o ho (decide_eq_true hoLeast)

/-- The tests between which no choice is made: the least ones, or all if none is least. -/
def tied (r : Registry σ) (tests : List (Test σ)) : List (Test σ) :=
  match tests.filter fun m => m.IsLeastOf r tests with
  | [] => tests
  | least => least

/-- A test for the very type of the target is as specific as all that apply. -/
theorem isLeastOf_of_param_eq (htests : ∀ o ∈ tests, o.AppliesTo r t) (hparam : m.param = t) :
    m.IsLeastOf r tests := by
  intro o ho
  rw [hparam]
  exact (htests o ho).assignable

end Test

namespace MatchedTest

theorem applicable_eq : applicable r tests t = tests.filter fun m => m.AppliesTo r t := by
  unfold applicable
  congr 1
  funext m
  rw [Bool.eq_iff_iff, decide_eq_true_iff, Test.appliesTo_iff]

theorem leastOf_eq : leastOf r tests = tests.filter fun m => m.IsLeastOf r tests := by
  unfold leastOf
  congr 1
  funext m
  rw [Bool.eq_iff_iff, List.all_eq_true, decide_eq_true_iff]
  simp only [Test.IsLeastOf, Registry.isAssignable_iff]

theorem leastOf_eq_singleton_iff : leastOf r tests = [m] ↔ m.IsSoleLeastOf r tests := by
  rw [leastOf_eq, Test.isSoleLeastOf_iff]

/-! ## The choice -/

theorem mostSpecific_of_sole (h : m.IsSoleLeastOf r (applicable r tests t)) :
    mostSpecific r tests t = .unique ⟨m, none⟩ := by
  unfold mostSpecific
  rw [leastOf_eq_singleton_iff.mpr h]
  rfl

/-- Without one least test there is a tie, among the least ones or among all. -/
theorem mostSpecific_of_no_sole (hsome : applicable r tests t ≠ [])
    (h : ∀ m : Test σ, ¬ m.IsSoleLeastOf r (applicable r tests t)) :
    mostSpecific r tests t =
      .tied ((Test.tied r (applicable r tests t)).map (MatchedTest.mk · none)) := by
  unfold mostSpecific Test.tied
  rw [← leastOf_eq]
  match hleast : leastOf r (applicable r tests t) with
  | [] => simp [hsome]
  | [only] => exact absurd (leastOf_eq_singleton_iff.mp hleast) (h only)
  | _ :: _ :: _ => rfl

/-- A reference target for which there are reference tests goes no further. -/
theorem choose_eq_mostSpecific (testsNull : Bool) (htype : r.primitive? t = none)
    (hsome : applicable r tests t ≠ []) :
    choose r tests testsNull t = mostSpecific r tests t := by
  unfold choose
  simp only [htype]
  by_cases hsole : ∃ m : Test σ, m.IsSoleLeastOf r (applicable r tests t)
  · obtain ⟨m, hm⟩ := hsole
    rw [mostSpecific_of_sole hm]
  · rw [mostSpecific_of_no_sole hsome (not_exists.mp hsole)]

/-! ## The search -/

section

variable {h : TypeId} {handler : Handler σ} {target : GenericType} (guard : String)
  (testsNull : Bool)

/-- What is said of tests that are tied. -/
def ambiguity (r : Registry σ) (guard : String) (h : TypeId) (target : GenericType)
    (tied : List (Test σ)) : GuardError :=
  .ambiguousTest guard (r.qualifiedName h) (r.renderType target)
    (tied.map fun m => "test(" ++ r.simpleName m.param ++ ")")

theorem find_of_unique {found : MatchedTest σ} (hhandler : r.handler? h = some handler)
    (hchoose : choose r handler.tests testsNull target.raw = .unique found) :
    find r guard testsNull h target = .ok found := by
  unfold find
  simp only [hhandler, hchoose]

theorem find_of_tied {tied : List (Test σ)} {widenTo : Option Primitive}
    (hhandler : r.handler? h = some handler)
    (hchoose : choose r handler.tests testsNull target.raw =
      .tied (tied.map (MatchedTest.mk · widenTo))) :
    find r guard testsNull h target = .error (ambiguity r guard h target tied) := by
  unfold find ambiguity
  simp only [hhandler, hchoose, List.map_map, Function.comp_def]

variable {applicableTests : List (Test σ)} (hhandler : r.handler? h = some handler)
  (htype : r.primitive? target.raw = none)
  (happlicable : applicableTests = handler.tests.filter fun m => m.AppliesTo r target.raw)
  (hsome : applicableTests ≠ [])

include hhandler htype happlicable hsome

theorem find_of_sole (hsole : m.IsSoleLeastOf r applicableTests) :
    find r guard testsNull h target = .ok ⟨m, none⟩ := by
  rw [← applicable_eq] at happlicable
  subst happlicable
  apply find_of_unique guard testsNull hhandler
  rw [choose_eq_mostSpecific testsNull htype hsome, mostSpecific_of_sole hsole]

/-- **The tied tests are named** where no test is the only least one. -/
theorem find_of_no_sole (hnone : ¬ ∃ m : Test σ, m.IsSoleLeastOf r applicableTests) :
    find r guard testsNull h target =
      .error (ambiguity r guard h target (Test.tied r applicableTests)) := by
  rw [← applicable_eq] at happlicable
  subst happlicable
  apply find_of_tied guard testsNull hhandler
  rw [choose_eq_mostSpecific testsNull htype hsome,
    mostSpecific_of_no_sole hsome (not_exists.mp hnone)]

/-- **A test is found** exactly if it is the only least one, and then values are passed to
    it as they are. -/
theorem find_eq_ok_iff (found : MatchedTest σ) :
    find r guard testsNull h target = .ok found ↔
      found.test.IsSoleLeastOf r applicableTests ∧ found.widenTo = none := by
  obtain ⟨m, widenTo⟩ := found
  constructor
  · intro hfind
    by_cases hsole : ∃ m : Test σ, m.IsSoleLeastOf r applicableTests
    · obtain ⟨only, honly⟩ := hsole
      rw [find_of_sole guard testsNull hhandler htype happlicable hsome honly] at hfind
      cases hfind
      exact ⟨honly, rfl⟩
    · rw [find_of_no_sole guard testsNull hhandler htype happlicable hsome hsole] at hfind
      cases hfind
  · rintro ⟨hsole, rfl⟩
    exact find_of_sole guard testsNull hhandler htype happlicable hsome hsole

end

/-- **The most specific test, and never a guess.** Take a target of reference type, and the
    tests of its handler class that apply to this type, of which there is at least one.

    1. A test is found exactly if one entry of these is as specific as all of them. It is
       that entry, and values are not widened for it.
    2. Otherwise the search fails and names the tied tests: those that are as specific as
       all, or all that apply if none is. It does not matter whether a test for the
       primitive in the box would match.
    3. An entry that is declared for the very type of the target is found exactly if no
       other entry is as specific as all. -/
theorem most_specific_overload {h : TypeId} {handler : Handler σ} {target : GenericType}
    {applicableTests : List (Test σ)} (guard : String) (testsNull : Bool)
    (hhandler : r.handler? h = some handler) (htype : r.primitive? target.raw = none)
    (happlicable : applicableTests = handler.tests.filter fun m => m.AppliesTo r target.raw)
    (hsome : applicableTests ≠ []) :
    (∀ found, find r guard testsNull h target = .ok found ↔
      found.test.IsSoleLeastOf r applicableTests ∧ found.widenTo = none) ∧
    ((¬ ∃ m : Test σ, m.IsSoleLeastOf r applicableTests) →
      find r guard testsNull h target =
        .error (ambiguity r guard h target (Test.tied r applicableTests))) ∧
    (∀ before m after, applicableTests = before ++ m :: after → m.param = target.raw →
      (find r guard testsNull h target = .ok ⟨m, none⟩ ↔
        ∀ o ∈ before ++ after, ¬ o.IsLeastOf r applicableTests)) := by
  have hfound := find_eq_ok_iff guard testsNull hhandler htype happlicable hsome
  have happlies : ∀ o ∈ applicableTests, o.AppliesTo r target.raw := by
    intro o ho
    rw [happlicable] at ho
    exact of_decide_eq_true (List.mem_filter.mp ho).2
  refine ⟨hfound, find_of_no_sole guard testsNull hhandler htype happlicable hsome, ?_⟩
  intro before m after hsplit hparam
  have hleast : m.IsLeastOf r applicableTests := Test.isLeastOf_of_param_eq happlies hparam
  constructor
  · intro hfind
    exact ((hfound ⟨m, none⟩).mp hfind).1.not_isLeastOf hsplit hleast
  · intro hothers
    exact (hfound ⟨m, none⟩).mpr ⟨⟨before, after, hsplit, hleast, hothers⟩, rfl⟩

end MatchedTest

/-! ## Two classes above each other -/

namespace Sample.Circular

def left : TypeId := ⟨34⟩
def right : TypeId := ⟨35⟩
def handlerClass : TypeId := ⟨36⟩

def testFor (param : TypeId) : Test Unit where
  label := .silent
  param := param
  run? := fun _ => some fun _ => .ok true

/-- Tests for two classes, and for the primitive that the first one boxes. -/
def code : Handler Unit where
  tests := [testFor left, testFor right, testFor .int]

/-- Each of the two classes declares the other one as its supertype. -/
def registry : Registry Unit where
  types := Registry.builtinTypes ++ [
    { name := "Left", package := "app"
      kind := .classType { supertypes := [right], boxes := some .int } },
    { name := "Right", package := "app", kind := .classType { supertypes := [left] } },
    { name := "CircularHandler", package := "app"
      kind := .classType { supertypes := [.guardHandler], handler := some code } }]

end Sample.Circular

namespace MatchedTest

open Sample.Circular

/-- Both tests are as specific as the other one. So neither is taken for the first of the
    classes, not even the one that is declared for it, nor the one for the primitive. -/
theorem most_specific_overload_circular :
    registry.unboxed? left = some .int ∧
    (testFor left).IsLeastOf registry [testFor left, testFor right] ∧
    (testFor right).IsLeastOf registry [testFor left, testFor right] ∧
    find registry "app.Guard" false handlerClass (.ofRaw left) =
      .error (.ambiguousTest "app.Guard" "app.CircularHandler" "Left"
        ["test(Left)", "test(Right)"]) := by
  have happlicable : [testFor left, testFor right] =
      code.tests.filter fun m => m.AppliesTo registry (GenericType.ofRaw left).raw := rfl
  have hleft : (testFor left).IsLeastOf registry [testFor left, testFor right] := by decide
  have hright : (testFor right).IsLeastOf registry [testFor left, testFor right] := by decide
  obtain ⟨-, htied, -⟩ := @most_specific_overload _ registry handlerClass code (.ofRaw left) _
    "app.Guard" false rfl rfl happlicable (List.cons_ne_nil _ _)
  have hnone : ¬ ∃ m : Test Unit, m.IsSoleLeastOf registry [testFor left, testFor right] := by
    rintro ⟨m, hm⟩
    have hone : (leastOf registry [testFor left, testFor right]).length = 1 :=
      congrArg List.length (leastOf_eq_singleton_iff.mpr hm)
    exact absurd hone (by decide)
  exact ⟨rfl, hleft, hright, htied hnone⟩

end MatchedTest

end AnnotationGuards
