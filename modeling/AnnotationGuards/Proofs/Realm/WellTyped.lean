import AnnotationGuards.Proofs.Handler.Invocation
import AnnotationGuards.Proofs.Handler.Wiring
import AnnotationGuards.Proofs.Realm.Concealment

/-! # Well-typed values

    A value is well-typed for a target if it is a scalar of the target's primitive type,
    or of the one that the target's class boxes. A test that has been matched to the
    target runs on every such value, as long as its handler comes from the declaration
    that has the test.

    * `MatchedTest.well_typed_invocation`: what the test receives, and that it runs.
    * `Registry.Declared`: every handler of the registry comes from one declaration.
    * `Realm.check_ne_internal_of_scalar`: in a realm over such a registry no check of a
      well-typed value is given up. -/

namespace AnnotationGuards

variable {σ H : Type} {r : Registry σ} {v : Value} {p : Primitive}

/-! ## One invocation -/

/-- A guard whose test runs its code answers with what the code decides. -/
theorem GuardInstance.check_ne_internal {g : GuardInstance σ} {code : Value → Except Panic Bool}
    {arg : Value} {calls : List Call}
    (hrun : g.test.run g.handler v = ((code arg).map .ok, calls)) (text : String) :
    (g.check v).1 ≠ .ok (.error (.internal text)) := by
  intro hinternal
  unfold check at hinternal
  split at hinternal
  · cases hinternal
  · rw [hrun] at hinternal
    rcases hverdict : code arg with payload | (_ | _)
    all_goals rw [hverdict] at hinternal; cases hinternal

namespace MatchedTest

variable {guard : String} {testsNull : Bool} {h : TypeId} {target : GenericType} {m : MatchedTest σ}
  {kind : StateKind σ H} {parts : List (HandlerPart H)} {c : Constructor σ}
  {arguments : List Injected} {state : σ}

/-- A test that is found for a target has code for a state of the same declaration. -/
theorem exists_code_of_find (hfind : find r guard testsNull h target = .ok m)
    (hdeclared : r.handler? h = some (Handler.declare kind parts))
    (hc : c ∈ (Handler.declare kind parts).constructors)
    (hstate : c.build arguments = .ok (.ok state)) : ∃ code, m.test.run? state = some code := by
  obtain ⟨handler, hhandler, hmem⟩ := exists_handler_of_find hfind
  have hsame : handler = Handler.declare kind parts := by
    rw [hhandler] at hdeclared
    exact Option.some.inj hdeclared
  subst hsame
  exact (Handler.ofKind_declare kind parts).exists_code hc hstate hmem

/-- **A well-typed value reaches the test.** Let a test be found for a target in a handler
    class, and a state be built by a constructor of the same declaration.

    1. On every value of the target's primitive type, or of the primitive type that the
       target's class boxes, the test's code runs, once. If the test's parameter is of
       a primitive type, the code receives a value of exactly this type, and of the
       same integer if the type is integral.
    2. A guard with this test and this state therefore never answers that its test
       cannot run on such a value.
    3. If the test's parameter is of no primitive type, its code receives every value as
       it is. -/
theorem well_typed_invocation (hfind : find r guard testsNull h target = .ok m)
    (hdeclared : r.handler? h = some (Handler.declare kind parts))
    (hc : c ∈ (Handler.declare kind parts).constructors)
    (hstate : c.build arguments = .ok (.ok state)) :
    (∀ p v, r.scalar? target.raw = some p → v.primitive? = some p →
      (∃ code arg, m.test.run? state = some code ∧
        m.run state v = ((code arg).map .ok, [.tested m.test.label arg]) ∧
        ((r.primitive? m.test.param).isSome = true → arg.runtimeType = m.test.param ∧
          ∀ q : Primitive, m.test.param = q.typeId → q.isIntegral = true →
            arg.asInteger? = v.asInteger?)) ∧
      ∀ g : GuardInstance σ, g.test = m → g.handler = state →
        ∀ text, (g.check v).1 ≠ .ok (.error (.internal text))) ∧
    ((∀ q : Primitive, m.test.param ≠ q.typeId) →
      ∀ v, ∃ code, m.test.run? state = some code ∧
        m.run state v = ((code v).map .ok, [.tested m.test.label v])) := by
  obtain ⟨code, hcode⟩ := exists_code_of_find hfind hdeclared hc hstate
  have hfits : m.Fits r testsNull target.raw := fits_of_find hfind
  constructor
  · intro p v hp hv
    obtain ⟨arg, harg, htakes⟩ := hfits.exists_argument hp hv
    have hrun := run_of_argument harg hcode
    constructor
    · refine ⟨code, arg, hcode, hrun, ?_⟩
      intro hprimitive
      exact ⟨(htakes hprimitive).runtimeType_eq, (htakes hprimitive).integer_eq⟩
    · rintro g rfl rfl text
      exact GuardInstance.check_ne_internal hrun text
  · intro hparam v
    exact ⟨code, hcode, run_of_argument (hfits.argument_eq hparam v) hcode⟩

end MatchedTest

/-! ## The scripted program, with a test for longs -/

/-- A script without tests of other classes is one declaration. -/
theorem Script.handler_eq_declare {script : List Script.Declaration}
    (h : script.filterMap Script.foreignPart? = []) :
    Script.handler script = Handler.declare Script.ownKind (script.filterMap Script.ownPart?) := by
  have hnone : (Handler.declare Script.foreignKind []).tests = [] := rfl
  unfold Script.handler
  dsimp only
  rw [h, hnone, List.append_nil]

namespace Sample.Scripted

/-- The guard's only test is one for longs, and compares with the number 3. -/
def comparing : List Script.Declaration :=
  [.constructor true .silent [] (.constant 3), .test (.named "t") .long .atLeast]

/-- The test as it is matched to an int. -/
def comparingTest : MatchedTest Script.State :=
  ⟨Script.ownKind.test (.named "t") .long (Script.TestRule.run .atLeast), some .long⟩

theorem find_comparing :
    MatchedTest.find (registry comparing []) "app.AtLeast" false atLeastHandler (.ofRaw .int) =
      .ok comparingTest := rfl

theorem handler_comparing : (registry comparing []).handler? atLeastHandler =
    some (Handler.declare Script.ownKind (comparing.filterMap Script.ownPart?)) :=
  congrArg some (Script.handler_eq_declare rfl)

end Sample.Scripted

namespace MatchedTest

open Sample.Scripted

/-- An int reaches the test for longs as a long, of the same integer. -/
theorem well_typed_invocation_comparing :
    ∃ code arg, comparingTest.test.run? (.own 3) = some code ∧
      comparingTest.run (.own 3) (.int 5) = ((code arg).map .ok, [.tested (.named "t") arg]) ∧
      arg.runtimeType = .long ∧ arg.asInteger? = (Value.int 5).asInteger? := by
  have hbuilt : (Script.ownKind.constructor .silent [] true
      (Script.BuildRule.run (.constant 3))).build [] = .ok (.ok (.own 3)) := rfl
  obtain ⟨hscalar, -⟩ :=
    well_typed_invocation find_comparing handler_comparing List.mem_cons_self hbuilt
  obtain ⟨⟨code, arg, hcode, hrun, htakes⟩, -⟩ := hscalar .int (.int 5) rfl rfl
  obtain ⟨htype, hinteger⟩ := htakes rfl
  exact ⟨code, arg, hcode, hrun, htype, hinteger .long rfl rfl⟩

end MatchedTest

/-! ## Checks -/

/-- Every handler of the registry comes from one declaration. -/
def Registry.Declared (r : Registry σ) : Prop :=
  ∀ t handler, r.handler? t = some handler → ∃ (H : Type) (kind : StateKind σ H)
    (parts : List (HandlerPart H)), handler = Handler.declare kind parts

namespace Realm

variable {context : LinkContext σ} {realm : Realm σ} {address : SlotAddress} {guards : SlotGuards}
  {chain : List (GuardInstance σ)} {g : GuardInstance σ}

/-- The test of a guard at work runs on every well-typed value. -/
theorem exists_run_of_worksAt (hdeclared : context.registry.Declared) {target : Target}
    {n : GuardNode} (hworks : g.WorksAt context target n)
    (hp : context.registry.scalar? target.staticType = some p) (hv : v.primitive? = some p) :
    ∃ (code : Value → Except Panic Bool) (arg : Value),
      g.test.run g.handler v = ((code arg).map .ok, [.tested g.test.test.label arg]) := by
  obtain ⟨d, marking, test, instantiator, state, calls, message, -, -, hfind, hmake, hbuilt, -,
    rfl⟩ := hworks
  obtain ⟨handler, hhandler, hmem⟩ := Instantiator.exists_handler_of_make hmake
  obtain ⟨H, kind, parts, rfl⟩ := hdeclared _ _ hhandler
  obtain ⟨injected, -, hstate, -⟩ := Instantiator.exists_injected_of_instantiate hbuilt
  obtain ⟨code, hcode⟩ := MatchedTest.exists_code_of_find hfind hhandler hmem hstate
  obtain ⟨arg, harg, -⟩ := (MatchedTest.fits_of_find hfind).exists_argument hp hv
  exact ⟨code, arg, MatchedTest.run_of_argument harg hcode⟩

/-- **No check of a well-typed value is given up** where every handler comes from one
    declaration: a check ends with a violation, a panic of a test, or a pass. -/
theorem check_ne_internal_of_scalar (h : realm.Reached) (hdeclared : realm.registry.Declared)
    (hlinks : realm.LinksTo address guards chain)
    (hp : realm.registry.scalar? guards.target.staticType = some p) (hv : v.primitive? = some p)
    (text : String) : (realm.check address v).outcome ≠ .ok (.error (.internal text)) := by
  intro hinternal
  have hcoherent := h.coherent
  rw [(check_of_linksTo hcoherent hlinks v).1] at hinternal
  obtain ⟨i, g, hg, -, hstops⟩ :=
    (runChain_eq_error_iff chain v _).mp (eq_ok_of_mapError_eq_ok hinternal)
  obtain ⟨-, houtcome⟩ := (linksTo_iff hcoherent).mp hlinks
  obtain ⟨n, hn⟩ := Link.exists_worksAt houtcome (List.mem_of_getElem? hg)
  obtain ⟨code, arg, hrun⟩ := exists_run_of_worksAt hdeclared hn hp hv
  exact GuardInstance.check_ne_internal hrun text hstops

end Realm

end AnnotationGuards
