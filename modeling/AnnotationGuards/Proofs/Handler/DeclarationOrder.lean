import AnnotationGuards.Proofs.Handler.Nearest
import AnnotationGuards.Proofs.Registry.Outline

/-! # The order in which tests are declared

    Each step of the search for a test filters the tests of a handler, and then looks at
    whether one is left, or none, or several. So it does not matter in which order they are
    declared: the same test is found, or the same fault is reported, and only the tied
    tests that a fault may name come in another order.

    * `Choice.SameUpToOrder`: choices that differ in the order of tied candidates alone.
    * `MatchedTest.choose_perm`: the choice among tests.
    * `MatchedTest.SameUpToOrder`: outcomes of the search that differ in nothing else.
    * **`MatchedTest.declaration_order_irrelevant`**: the search in two handlers with the
      same tests. -/

namespace AnnotationGuards

variable {σ : Type} {r r' : Registry σ} {tests tests' : List (Test σ)}

/-! ## Choices -/

namespace Choice

variable {α β : Type} {items items' : List α}

/-- The choices are the same, but tied candidates may come in another order. -/
inductive SameUpToOrder : Choice α → Choice α → Prop
  | nothing : SameUpToOrder .nothing .nothing
  | unique (a : α) : SameUpToOrder (.unique a) (.unique a)
  | tied {candidates candidates' : List α} (h : candidates.Perm candidates') :
    SameUpToOrder (.tied candidates) (.tied candidates')

theorem ofList_perm (h : items.Perm items') : SameUpToOrder (ofList items) (ofList items') := by
  match items, items', h with
  | [], items', h =>
    rw [h.nil_eq.symm]
    exact .nothing
  | [a], items', h =>
    rw [List.perm_singleton.mp h.symm]
    exact .unique a
  | _ :: _ :: _, [], h => cases h.length_eq
  | _ :: _ :: _, [_], h => cases h.length_eq
  | _ :: _ :: _, _ :: _ :: _, h => exact .tied h

end Choice

namespace MatchedTest

/-! ## Each step of the choice -/

variable (r) (t : TypeId)

theorem applicable_perm (h : tests.Perm tests') :
    (applicable r tests t).Perm (applicable r tests' t) :=
  h.filter _

/-- What is compared with all tests of a list is compared with the same tests. -/
theorem leastOf_perm (h : tests.Perm tests') : (leastOf r tests).Perm (leastOf r tests') := by
  have hkeep : ∀ m : Test σ, (tests.all fun o => r.isAssignable m.param o.param) =
      tests'.all fun o => r.isAssignable m.param o.param := fun _ => h.all_eq
  unfold leastOf
  simp only [hkeep]
  exact h.filter _

/-- The least tests are taken where there are any, and else all that apply. -/
theorem mostSpecific_eq : mostSpecific r tests t =
    if (leastOf r (applicable r tests t)).isEmpty then
      if (applicable r tests t).isEmpty then .nothing
      else .tied ((applicable r tests t).map (MatchedTest.mk · none))
    else .ofList ((leastOf r (applicable r tests t)).map (MatchedTest.mk · none)) := by
  unfold mostSpecific
  cases leastOf r (applicable r tests t) with
  | nil => simp
  | cons => rfl

theorem mostSpecific_perm (h : tests.Perm tests') :
    (mostSpecific r tests t).SameUpToOrder (mostSpecific r tests' t) := by
  have happlicable := applicable_perm r t h
  have hleast := leastOf_perm r happlicable
  rw [mostSpecific_eq, mostSpecific_eq, hleast.isEmpty_eq, happlicable.isEmpty_eq]
  split
  · split
    · exact .nothing
    · exact .tied (happlicable.map _)
  · exact Choice.ofList_perm (hleast.map _)

theorem testsFor_perm (h : tests.Perm tests') (p : Primitive) :
    (testsFor tests p).Perm (testsFor tests' p) :=
  h.filter _

theorem testsFor_eq_nil_iff_of_perm (h : tests.Perm tests') (p : Primitive) :
    testsFor tests p = [] ↔ testsFor tests' p = [] := by
  rw [← List.isEmpty_iff, (testsFor_perm h p).isEmpty_eq, List.isEmpty_iff]

theorem IsNearest.perm {p step : Primitive} (hnearest : IsNearest tests p step)
    (h : tests.Perm tests') : IsNearest tests' p step := by
  obtain ⟨htested, before, after, hsplit, hbefore⟩ := hnearest
  refine ⟨mt (testsFor_eq_nil_iff_of_perm h step).mpr htested, before, after, hsplit, ?_⟩
  intro q hq
  exact (testsFor_eq_nil_iff_of_perm h q).mp (hbefore q hq)

/-- The nearest type that has tests is the same, and so are its tests. -/
theorem nearest_perm (h : tests.Perm tests') (p : Primitive) :
    (nearest tests p).SameUpToOrder (nearest tests' p) := by
  rcases exists_isNearest tests p with ⟨step, hnearest⟩ | hnone
  · rw [hnearest.nearest_eq, (hnearest.perm h).nearest_eq]
    exact Choice.ofList_perm ((testsFor_perm h step).map _)
  · have hnone' : ∀ q ∈ p.chain, testsFor tests' q = [] := fun q hq =>
      (testsFor_eq_nil_iff_of_perm h q).mp (hnone q hq)
    unfold nearest
    rw [alongChain_of_none hnone, alongChain_of_none hnone']
    exact .nothing

theorem choose_perm (h : tests.Perm tests') (testsNull : Bool) :
    (choose r tests testsNull t).SameUpToOrder (choose r tests' testsNull t) := by
  unfold choose
  cases r.primitive? t with
  | some p => exact nearest_perm h p
  | none =>
    dsimp only
    have hspecific := mostSpecific_perm r t h
    revert hspecific
    generalize mostSpecific r tests t = choice
    generalize mostSpecific r tests' t = choice'
    intro hspecific
    cases hspecific with
    | nothing =>
      -- In neither list there is a test for the reference, so both go on with the box.
      cases testsNull with
      | true => exact .nothing
      | false =>
        cases r.unboxed? t with
        | none => exact .nothing
        | some p => exact nearest_perm h p
    | unique a => exact .unique a
    | tied hperm => exact .tied hperm

/-! ## The search -/

variable {r}

/-- The outcomes of two searches on behalf of one guard, for targets that are shown alike:
    the same test with the same widening, or the same fault. Each fault names the handler
    class of its search, and tied tests may come in another order. -/
inductive SameUpToOrder (guard shown name name' : String) :
    Except GuardError (MatchedTest σ) → Except GuardError (MatchedTest σ) → Prop
  | found (m : MatchedTest σ) : SameUpToOrder guard shown name name' (.ok m) (.ok m)
  | noTest : SameUpToOrder guard shown name name'
      (.error (.noTest guard name shown)) (.error (.noTest guard name' shown))
  | ambiguous {candidates candidates' : List String} (h : candidates.Perm candidates') :
    SameUpToOrder guard shown name name'
      (.error (.ambiguousTest guard name shown candidates))
      (.error (.ambiguousTest guard name' shown candidates'))

/-- **The order of declaration is irrelevant.** Take two handlers whose tests are the same in
    any two orders, in registries with one outline: one class that has the one code or the
    other, or two classes of one registry. For every guard and every target, the search for
    a test finds the same test in both and the same widening, or fails in both with the
    same fault and the same fields, where tied tests may come in another order. The one
    thing that can differ besides is the name of the handler class, where there are two. -/
theorem declaration_order_irrelevant {h h' : TypeId} {handler handler' : Handler σ}
    (houtline : r'.outline = r.outline) (hhandler : r.handler? h = some handler)
    (hhandler' : r'.handler? h' = some handler') (hperm : handler.tests.Perm handler'.tests)
    (guard : String) (testsNull : Bool) (target : GenericType) :
    SameUpToOrder guard (r.renderType target) (r.qualifiedName h) (r.qualifiedName h')
      (find r guard testsNull h target) (find r' guard testsNull h' target) := by
  -- Of names and types the two registries say the same, so only the lists are left to differ.
  have hname : r'.qualifiedName = r.qualifiedName := by
    simpa using congrArg Registry.qualifiedName houtline
  have hsimple : r'.simpleName = r.simpleName := by
    simpa using congrArg Registry.simpleName houtline
  have hshown : r'.renderType = r.renderType := by
    simpa using congrArg Registry.renderType houtline
  have hsame : choose r' handler'.tests testsNull target.raw =
      choose r handler'.tests testsNull target.raw := by
    rw [← choose_outline, houtline, choose_outline]
  have hchoice := choose_perm r target.raw hperm testsNull
  unfold find
  simp only [hhandler, hhandler', hname, hsimple, hshown, hsame]
  revert hchoice
  generalize choose r handler.tests testsNull target.raw = choice
  generalize choose r handler'.tests testsNull target.raw = choice'
  intro hchoice
  cases hchoice with
  | nothing => exact .noTest
  | unique m => exact .found m
  | tied hcandidates => exact .ambiguous (hcandidates.map _)

end MatchedTest

/-! ## Two declarations of one handler class -/

namespace Sample.Shuffled

def left : TypeId := ⟨34⟩
def right : TypeId := ⟨35⟩
def both : TypeId := ⟨36⟩
def handlerClass : TypeId := ⟨37⟩

def testsOn (params : List TypeId) : List (Test Unit) :=
  params.map fun t => { label := .silent, param := t, run? := fun _ => some fun _ => .ok true }

/-- A class with two supertypes, and a handler class with the given tests. -/
def registry (tests : List (Test Unit)) : Registry Unit where
  types := Registry.builtinTypes ++ [
    { name := "Left", package := "app", kind := .classType {} },
    { name := "Right", package := "app", kind := .classType {} },
    { name := "Both", package := "app", kind := .classType { supertypes := [left, right] } },
    { name := "ShuffledHandler", package := "app"
      kind := .classType { supertypes := [.guardHandler], handler := some { tests := tests } } }]

end Sample.Shuffled

namespace MatchedTest

open Sample.Shuffled

/-- The two supertypes are tied, and are named as they are declared. For one of them its
    own test is found, wherever it stands. -/
theorem declaration_order_irrelevant_shuffled :
    find (registry (testsOn [left, right])) "app.Guard" false handlerClass (.ofRaw both) =
      .error (.ambiguousTest "app.Guard" "app.ShuffledHandler" "Both"
        ["test(Left)", "test(Right)"]) ∧
    find (registry (testsOn [right, left])) "app.Guard" false handlerClass (.ofRaw both) =
      .error (.ambiguousTest "app.Guard" "app.ShuffledHandler" "Both"
        ["test(Right)", "test(Left)"]) ∧
    SameUpToOrder "app.Guard" "Both" "app.ShuffledHandler" "app.ShuffledHandler"
      (find (registry (testsOn [left, right])) "app.Guard" false handlerClass (.ofRaw both))
      (find (registry (testsOn [right, left])) "app.Guard" false handlerClass (.ofRaw both)) ∧
    ∃ m, find (registry (testsOn [left, right])) "app.Guard" false handlerClass (.ofRaw left) =
        .ok m ∧
      find (registry (testsOn [right, left])) "app.Guard" false handlerClass (.ofRaw left) =
        .ok m := by
  have hperm : (testsOn [left, right]).Perm (testsOn [right, left]) := .swap _ _ []
  have hsame (t : TypeId) :=
    @declaration_order_irrelevant _ (registry (testsOn [left, right]))
      (registry (testsOn [right, left])) handlerClass handlerClass _ _ rfl rfl rfl hperm
      "app.Guard" false (.ofRaw t)
  refine ⟨rfl, rfl, hsame both, ?_⟩
  cases hsame left with
  | found => exact ⟨_, rfl, rfl⟩

end MatchedTest

end AnnotationGuards
