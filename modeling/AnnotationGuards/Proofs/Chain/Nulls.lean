import AnnotationGuards.Proofs.Chain.Checks
import AnnotationGuards.Proofs.Chain.Forest
import AnnotationGuards.Proofs.Handler.Matching
import AnnotationGuards.Proofs.Program.Widening

/-! # Nulls on the way through a chain

    Where a target is of a reference type, its values may be null. Guards that do not
    test null pass a null unseen, and the others run their tests on it. A test with a
    primitive parameter never sees one: it is matched by unboxing, which only guards
    that do not test null ask for.

    * `MatchedTest.received_eq_null_iff`: a test receives a null only for a null.
    * `GuardInstance.WorksAt.exists_marking`: the marker of a guard that has been linked,
      and what it decides about nulls.
    * `GuardInstance.null_not_tested`: no test with a primitive parameter runs on a null.
    * `runChain_of_skips`, `exists_runChain_calls`: a null on its way. -/

namespace AnnotationGuards

variable {σ : Type} {c : LinkContext σ} {target : Target} {v : Value}

/-! ## What tests receive -/

namespace MatchedTest

variable {m : MatchedTest σ}

theorem received_null (m : MatchedTest σ) : m.received .null = .null := by
  unfold received
  cases m.widenTo <;> rfl

/-- Widening a scalar does not make it a null. -/
theorem received_eq_null_iff : m.received v = .null ↔ v = .null := by
  constructor
  · intro h
    unfold received at h
    cases hwidened : m.widenTo.bind v.widen? with
    | none => rw [hwidened] at h; exact h
    | some w =>
      rw [hwidened] at h
      obtain ⟨p, -, hw⟩ := Option.bind_eq_some_iff.mp hwidened
      have hscalar : w ≠ .null := Value.ne_null_of_primitive? (Value.primitive?_of_widen? hw)
      exact absurd h hscalar
  · rintro rfl
    exact m.received_null

/-- There is nothing to widen in a null. -/
theorem not_cannotWiden_null (m : MatchedTest σ) (p : Primitive) : ¬ m.CannotWiden .null p := by
  intro h
  exact h.2.1 rfl

end MatchedTest

/-! ## Guards and nulls -/

namespace GuardInstance

variable {g : GuardInstance σ}

/-- The marker of a guard at work on a target of a reference type: it decides whether
    nulls are skipped, and how the test may fit the type. -/
theorem WorksAt.exists_marking {n : GuardNode} (h : g.WorksAt c target n)
    (htype : c.registry.primitive? target.staticType = none) :
    ∃ d marking, c.registry.definition c.config g.annotation.type = .ok (some d) ∧
      d.marking = some marking ∧ g.skipsNull = !marking.testsNull ∧
      g.test.Fits c.registry marking.testsNull target.staticType := by
  obtain ⟨d, marking, test, instantiator, handler, calls, message, hdefinition, hmarking, hfind,
    -, -, -, rfl⟩ := h
  refine ⟨d, marking, hdefinition, hmarking, ?_, MatchedTest.fits_of_find hfind⟩
  show Link.skipsNull c.registry marking target = !marking.testsNull
  unfold Link.skipsNull
  rw [htype]
  exact Bool.and_true _

/-- A test with a primitive parameter, on a target of a reference type, has been matched
    by unboxing, and its guard skips nulls. -/
theorem skipsNull_of_primitive {r : Registry σ} {testsNull : Bool} {t : TypeId}
    (hfits : g.test.Fits r testsNull t) (htype : r.primitive? t = none)
    (hskips : g.skipsNull = !testsNull)
    (hparam : (r.primitive? g.test.test.param).isSome = true) : g.skipsNull = true := by
  cases hfits with
  | reference _ hreference _ =>
    rw [hreference] at hparam
    cases hparam
  | primitive hprimitive _ =>
    rw [htype] at hprimitive
    cases hprimitive
  | unboxed _ _ hnull _ =>
    rw [hskips, hnull]
    rfl

theorem skips_null (h : g.skipsNull = true) : g.skips .null = true := by
  unfold skips
  rw [h]
  rfl

theorem check_null_of_skipsNull (h : g.skipsNull = true) :
    g.check .null = (.ok (.ok ()), []) := by
  have hskip := skips_null h
  rw [check_of_skips hskip]
  simp [testCalls, hskip]

/-- A guard that skips nulls runs its test on none. -/
theorem null_not_tested (h : g.skipsNull = true) (v : Value) (label : Label) :
    Call.tested label .null ∉ (g.check v).2 := by
  intro hmem
  obtain ⟨hskip, hcall⟩ := eq_testCall_of_mem hmem
  have hreceived : g.test.received v = .null := (Call.tested.inj hcall).2.symm
  have hnull : v = .null := MatchedTest.received_eq_null_iff.mp hreceived
  unfold skips at hskip
  rw [h, hnull] at hskip
  cases hskip

theorem not_skips (h : g.skipsNull = false) (v : Value) : g.skips v = false := by
  unfold skips
  rw [h]
  rfl

/-- A guard that tests null runs its test on the null itself, if the test has code for the
    guard's handler. -/
theorem check_null_of_code (h : g.skipsNull = false) {code : Value → Except Panic Bool}
    (hcode : g.test.test.run? g.handler = some code) :
    g.check .null =
      (((code .null).map .ok).map (g.settle .null), [.tested g.test.test.label .null]) := by
  rw [check_of_code (not_skips h .null) g.test.not_cannotWiden_null hcode, testCall,
    g.test.received_null]

theorem check_null_of_foreign (h : g.skipsNull = false)
    (hforeign : g.test.test.run? g.handler = none) :
    g.check .null = (.ok (.error (.internal (g.description ++ ": " ++
      "handler instance does not match its test method"))), []) :=
  check_of_cannotRun (not_skips h .null) (.foreign g.test.not_cannotWiden_null hforeign)

end GuardInstance

/-! ## A null on its way -/

variable {g : GuardInstance σ} {before after chain : List (GuardInstance σ)}

/-- A guard that skips the value leaves no trace in the check. -/
theorem runChain_of_skips (hbefore : ∀ b ∈ before, b.Passes v) (hskip : g.skips v = true) :
    runChain (before ++ g :: after) v = runChain (before ++ after) v := by
  have hcalls : GuardInstance.testCalls [g] v = [] := by simp [GuardInstance.testCalls, hskip]
  rw [runChain_append hbefore, runChain_append hbefore, runChain_of_passes (Or.inl hskip), hcalls]
  rfl

/-- A guard whose test runs on the value, after guards that pass it. -/
theorem exists_runChain_calls (hbefore : ∀ b ∈ before, b.Passes v) {call : Call}
    {outcome : Except Panic CheckResult} (hcheck : g.check v = (outcome, [call])) :
    ∃ later, (runChain (before ++ g :: after) v).2 =
      GuardInstance.testCalls before v ++ call :: later := by
  rw [runChain_append hbefore]
  unfold runChain
  rw [hcheck]
  split
  · next calls heq =>
    cases heq
    exact ⟨(runChain after v).2, rfl⟩
  · exact ⟨[], rfl⟩

/-- Guards that all skip the value pass it without a test. -/
theorem runChain_of_all_skip (h : ∀ g ∈ chain, g.skips v = true) :
    runChain chain v = (.ok (.ok ()), []) := by
  have hpasses : ∀ g ∈ chain, g.Passes v := fun g hg => Or.inl (h g hg)
  have hcalls : GuardInstance.testCalls chain v = [] := by
    unfold GuardInstance.testCalls
    rw [List.map_eq_nil_iff, List.filter_eq_nil_iff]
    intro g hg
    rw [h g hg]
    decide
  rw [(ChainEnds.passed hpasses).runChain_eq, hcalls]

end AnnotationGuards
