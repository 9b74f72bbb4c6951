import AnnotationGuards.Proofs.Handler.Matching
import AnnotationGuards.Proofs.Realm.Chains
import AnnotationGuards.Proofs.Realm.Messages

/-! # The boundary of the engine

    What the guards of a program are worth is the program's own affair: whatever
    is wrong with them disables their slots, and the caller of a check sees none
    of it. The caller learns of values that break a guard, and of checks that
    cannot be carried out: because there is no slot at the address, or because a
    test cannot run on the value.

    * `Realm.CannotCheck`: why a check cannot be carried out.
    * `Realm.CheckEnds`, `Realm.checkEnds_check`: how checks end.
    * `Realm.fail_soft`: what the caller sees. It leaves one way out, a guard of
      which there is no finite text. -/

namespace AnnotationGuards

variable {σ : Type} {c : LinkContext σ} {realm : Realm σ} {address : SlotAddress}
  {guards : SlotGuards} {chain : List (GuardInstance σ)} {v : Value} {text : String}

/-- None of the tests that are declared panics. -/
def Registry.TestsNeverPanic (r : Registry σ) : Prop :=
  ∀ t handler, r.handler? t = some handler → ∀ test ∈ handler.tests, test.NeverPanics

namespace Realm

/-- Why a check of the value at the address cannot be carried out: the address leads
    to no slot, or the chain of the slot comes to a guard whose test cannot run. -/
inductive CannotCheck (realm : Realm σ) (address : SlotAddress) (v : Value) : String → Prop
  | unaddressable {text : String}
    (h : realm.registry.Unaddressable address.declaring address.signature address.slot text) :
    CannotCheck realm address v text
  | stuck {guards : SlotGuards} {before after : List (GuardInstance σ)} {g : GuardInstance σ}
    {reason : String} (hlinks : realm.LinksTo address guards (before ++ g :: after))
    (hbefore : ∀ b ∈ before, b.Passes v) (hskip : g.skips v = false)
    (h : g.CannotRun v reason) : CannotCheck realm address v (g.description ++ ": " ++ reason)

/-! ## Address errors -/

theorem check_of_unaddressable (h : realm.Coherent c)
    (hnone : c.registry.Unaddressable address.declaring address.signature address.slot text) :
    (realm.check address v).outcome = .ok (.error (.internal text)) := by
  have hlocate : c.locate address = .error (.internal text) := hnone.locate_eq
  rw [(check_spec h address v).1]
  unfold LinkContext.checked
  rw [hlocate]

/-- A report fails exactly where the address leads to no slot, and says why. -/
theorem slotStatus_eq_error_iff (h : realm.Coherent c) {e : CheckError} :
    (realm.slotStatus address).outcome = .ok (.error e) ↔
      ∃ text, e = .internal text ∧
        c.registry.Unaddressable address.declaring address.signature address.slot text := by
  rw [← Registry.locate_eq_error_iff, (slotStatus_spec h address).1]
  show c.status address = _ ↔ c.locate address = _
  unfold LinkContext.status
  cases c.locate address with
  | error e' => simp
  | ok found =>
    cases found with
    | none => simp
    | some guards =>
      dsimp only
      cases Link.outcome c guards <;> simp [Except.map]

/-! ## How checks end -/

/-- The tests of a chain are among those that are declared. -/
theorem neverPanics_of_linksTo (h : realm.Coherent c) (hcalm : c.registry.TestsNeverPanic)
    (hlinks : realm.LinksTo address guards chain) : ∀ g ∈ chain, g.test.test.NeverPanics := by
  intro g hg
  obtain ⟨-, houtcome⟩ := (linksTo_iff h).mp hlinks
  obtain ⟨n, d, marking, test, _, _, _, _, -, -, hfind, -, -, -, rfl⟩ :=
    Link.exists_worksAt houtcome hg
  obtain ⟨handler, hhandler, htest⟩ := MatchedTest.exists_handler_of_find hfind
  exact hcalm marking.handler handler hhandler test.test htest

/-- How a check of the value at the address can end. -/
inductive CheckEnds (realm : Realm σ) (address : SlotAddress) (v : Value) :
    Except Abort CheckResult → Prop
  | nowhere {text : String}
    (h : realm.registry.Unaddressable address.declaring address.signature address.slot text) :
    CheckEnds realm address v (.ok (.error (.internal text)))
  /-- No guard applies, or the slot is disabled. -/
  | unchecked : CheckEnds realm address v (.ok (.ok ()))
  | checked {guards : SlotGuards} {chain : List (GuardInstance σ)} {result : CheckResult}
    {tests : List Call} (hlinks : realm.LinksTo address guards chain)
    (hends : ChainEnds v chain result tests) (hcalls : tests ⊆ (realm.check address v).calls) :
    CheckEnds realm address v (.ok result)
  /-- A guard that the slot leads to cannot be shown to the end. -/
  | endless (h : realm.MeetsEndless address) : CheckEnds realm address v (.error .endlessText)

/-- **How checks end**, if panics are contained and tests do not panic. -/
theorem checkEnds_check (h : realm.Coherent c) (hcontain : c.config.containPanics = true)
    (hcalm : c.registry.TestsNeverPanic) (address : SlotAddress) (v : Value) :
    realm.CheckEnds address v (realm.check address v).outcome := by
  cases hlocate : c.locate address with
  | error e =>
    obtain ⟨text, -, hnone⟩ := Registry.locate_eq_error_iff.mp hlocate
    rw [check_of_unaddressable h hnone]
    rw [← h.registry_eq] at hnone
    exact .nowhere hnone
  | ok found =>
    rw [(check_spec h address v).1]
    cases found with
    | none =>
      unfold LinkContext.checked
      rw [hlocate]
      exact .unchecked
    | some guards =>
      rw [LinkContext.checked_of_locate hlocate]
      cases houtcome : Link.outcome c guards with
      | error abort =>
        obtain ⟨rfl, -⟩ := Link.outcome_eq_error hcontain hlocate houtcome
        exact .endless (meetsEndless_of_outcome h hlocate houtcome)
      | ok state =>
        cases state with
        | disabled reason => exact .unchecked
        | linked chain =>
          have hlinks : realm.LinksTo address guards chain :=
            (linksTo_iff h).mpr ⟨hlocate, houtcome⟩
          obtain ⟨result, tests, hends⟩ :=
            exists_chainEnds (neverPanics_of_linksTo h hcalm hlinks) v
          obtain ⟨-, builds, -, hcalls⟩ := check_of_linksTo h hlinks v
          have hrun : (runChain chain v).1 = .ok result := by rw [hends.runChain_eq]
          have htests : tests ⊆ (realm.check address v).calls := by
            rw [hcalls, hends.runChain_eq]
            exact List.subset_append_right _ _
          show realm.CheckEnds address v ((runChain chain v).1.mapError .panicked)
          rw [hrun]
          exact .checked hlinks hends htests

/-- A check cannot be carried out exactly for one of the two reasons. -/
theorem check_eq_internal_iff (h : realm.Coherent c) (hcontain : c.config.containPanics = true)
    (hcalm : c.registry.TestsNeverPanic) :
    (realm.check address v).outcome = .ok (.error (.internal text)) ↔
      realm.CannotCheck address v text := by
  constructor
  · intro hinternal
    have hcheck := checkEnds_check h hcontain hcalm address v
    rw [hinternal] at hcheck
    cases hcheck with
    | nowhere hnone => exact .unaddressable hnone
    | checked hlinks hends _ =>
      cases hends with
      | stuck before after hbefore hskip hstuck => exact .stuck hlinks hbefore hskip hstuck
  · intro hcannot
    cases hcannot with
    | unaddressable hnone =>
      rw [h.registry_eq] at hnone
      exact check_of_unaddressable h hnone
    | stuck hlinks hbefore hskip hstuck =>
      rw [(check_of_linksTo h hlinks v).1,
        (ChainEnds.stuck _ _ hbefore hskip hstuck).runChain_eq]
      rfl

/-- A violation is the report of a guard whose test has said no in this very call. -/
theorem exists_of_check_eq_violation (h : realm.Coherent c)
    (hcontain : c.config.containPanics = true) (hcalm : c.registry.TestsNeverPanic)
    {violation : Violation}
    (hviolation : (realm.check address v).outcome = .ok (.error (.violation violation))) :
    ∃ guards chain g, realm.LinksTo address guards chain ∧ g ∈ chain ∧ g.Yields v false ∧
      g.testCall v ∈ (realm.check address v).calls ∧ violation = g.violation v := by
  have hcheck := checkEnds_check h hcontain hcalm address v
  rw [hviolation] at hcheck
  cases hcheck with
  | checked hlinks hends hcalls =>
    cases hends with
    | broken before after hbefore hskip hno hreport =>
      have hbuilt := GuardInstance.reports_iff.mp hreport
      exact ⟨_, _, _, hlinks, by simp, hno, hcalls (by simp), hbuilt⟩

/-- A disabled slot lets every value pass. -/
theorem check_of_disabled (h : realm.Coherent c) {reason : String}
    (hstatus : (realm.slotStatus address).outcome = .ok (.ok (.disabled reason))) (v : Value) :
    (realm.check address v).outcome = .ok (.ok ()) := by
  rw [(slotStatus_spec h address).1] at hstatus
  obtain ⟨guards, hlocate, houtcome⟩ := LinkContext.exists_of_status_eq_disabled hstatus
  rw [(check_spec h address v).1, LinkContext.checked_of_locate hlocate, houtcome]
  rfl

/-- **What the caller of a check sees**, in any realm that contains panics, whatever
    is wrong with its guards and whatever it has been asked before, if tests do not
    panic:

    1. a result, unless a guard that the slot leads to cannot be shown to the end;
    2. that the check cannot be carried out, exactly if the address leads to no slot
       or the chain comes to a test that cannot run;
    3. a violation only where a test of the chain has said no in this call;
    4. and a report fails exactly where the address leads to no slot, with the same
       text, which the registry alone determines;
    5. a disabled slot lets the value pass. -/
theorem fail_soft (h : realm.Reached) (hcontain : realm.config.containPanics = true)
    (hcalm : realm.registry.TestsNeverPanic) (address : SlotAddress) (v : Value) :
    ((∃ result, (realm.check address v).outcome = .ok result) ∨
      (realm.check address v).outcome = .error .endlessText ∧ realm.MeetsEndless address) ∧
    (∀ text, (realm.check address v).outcome = .ok (.error (.internal text)) ↔
      realm.CannotCheck address v text) ∧
    (∀ violation, (realm.check address v).outcome = .ok (.error (.violation violation)) →
      ∃ guards chain g, realm.LinksTo address guards chain ∧ g ∈ chain ∧ g.Yields v false ∧
        g.testCall v ∈ (realm.check address v).calls ∧ violation = g.violation v) ∧
    (∀ e, (realm.slotStatus address).outcome = .ok (.error e) ↔
      ∃ text, e = .internal text ∧ realm.registry.Unaddressable address.declaring
        address.signature address.slot text) ∧
    ((∃ reason, (realm.slotStatus address).outcome = .ok (.ok (.disabled reason))) →
      (realm.check address v).outcome = .ok (.ok ())) := by
  have hcoherent := h.coherent
  refine ⟨?_, ?_, ?_, ?_, ?_⟩
  · have hcheck := checkEnds_check hcoherent hcontain hcalm address v
    generalize (realm.check address v).outcome = outcome at hcheck
    cases hcheck with
    | nowhere _ => exact Or.inl ⟨_, rfl⟩
    | unchecked => exact Or.inl ⟨_, rfl⟩
    | checked _ _ _ => exact Or.inl ⟨_, rfl⟩
    | endless hmeets => exact Or.inr ⟨rfl, hmeets⟩
  · exact fun text => check_eq_internal_iff hcoherent hcontain hcalm
  · exact fun violation => exists_of_check_eq_violation hcoherent hcontain hcalm
  · exact fun e => slotStatus_eq_error_iff hcoherent
  · rintro ⟨reason, hstatus⟩
    exact check_of_disabled hcoherent hstatus v

/-! ## The small program, and one with a guard that cannot be shown -/

end Realm

namespace Sample

/-- The registry of the small program, with a default of the inner guard that holds
    an annotation of the guard itself. -/
def endlessRegistry : Registry Unit where
  types := Registry.builtinTypes ++ [
    { name := "Present", package := "app"
      kind := .annotationType
        { presentDef with attributes := [("self", some (.nested present []))] } },
    { name := "Required", package := "app", kind := .annotationType requiredDef },
    { name := "PresentHandler", package := "app"
      kind := .classType { supertypes := [.guardHandler], handler := some presentCode } },
    { name := "Service", package := "app", kind := .classType { members := [send] } }]
  names := registry.names

def endlessRealm : Realm Unit := Realm.fresh ⟨0⟩ endlessRegistry {}

theorem presentCode_neverPanics : ∀ test ∈ presentCode.tests, test.NeverPanics := by
  intro test htest
  rw [List.mem_singleton.mp htest]
  intro state code hcode v payload hpanic
  cases hcode
  cases hpanic

/-- No built-in type has handler code. -/
theorem handler_of_mem_builtinTypes :
    ∀ d ∈ Registry.builtinTypes (σ := Unit), (d.class?.bind ClassDef.handler).isNone = true :=
  List.all_eq_true.mp rfl

/-- Types of which only one handler class is not built in have the tests of that
    class. -/
theorem testsNeverPanic_of_types {r : Registry Unit} {declared : List (TypeDef Unit)}
    (htypes : r.types = Registry.builtinTypes ++ declared)
    (h : ∀ d ∈ declared, ∀ code, d.class?.bind ClassDef.handler = some code →
      code = presentCode) : r.TestsNeverPanic := by
  intro t code hcode
  obtain ⟨classDef, hclass, hhandler⟩ := Option.bind_eq_some_iff.mp hcode
  obtain ⟨d, hd, hkind⟩ := Option.bind_eq_some_iff.mp hclass
  have hfound : d.class?.bind ClassDef.handler = some code :=
    Option.bind_eq_some_iff.mpr ⟨classDef, hkind, hhandler⟩
  have hmem : d ∈ r.types := List.mem_of_getElem? hd
  rw [htypes] at hmem
  rcases List.mem_append.mp hmem with hbuiltin | hdeclared
  · have hnone := handler_of_mem_builtinTypes d hbuiltin
    rw [hfound] at hnone
    cases hnone
  · rw [h d hdeclared code hfound]
    exact presentCode_neverPanics

theorem testsNeverPanic : Sample.registry.TestsNeverPanic := by
  refine testsNeverPanic_of_types rfl ?_
  intro d hd code hcode
  simp only [List.mem_cons, List.not_mem_nil, or_false] at hd
  rcases hd with rfl | rfl | rfl | rfl
  all_goals cases hcode
  rfl

theorem testsNeverPanic_endlessRegistry : endlessRegistry.TestsNeverPanic := by
  refine testsNeverPanic_of_types rfl ?_
  intro d hd code hcode
  simp only [List.mem_cons, List.not_mem_nil, or_false] at hd
  rcases hd with rfl | rfl | rfl | rfl
  all_goals cases hcode
  rfl

end Sample

namespace Realm

/-- In the small program a null passes, and the method returns nothing that could be
    checked. -/
theorem fail_soft_sample :
    (∃ result, (Sample.realm.check Sample.recipient .null).outcome = .ok result) ∧
    Sample.realm.CannotCheck { Sample.recipient with slot := .returned } .null
      "app.Service.send(lang.Object): no slot return" := by
  have hreached : Sample.realm.Reached := ⟨⟨0⟩, Sample.registry, {}, [], rfl⟩
  obtain ⟨houtcome, -⟩ := fail_soft hreached rfl Sample.testsNeverPanic Sample.recipient .null
  obtain ⟨-, hinternal, -⟩ := fail_soft hreached rfl Sample.testsNeverPanic
    { Sample.recipient with slot := .returned } .null
  refine ⟨?_, (hinternal _).mp rfl⟩
  rcases houtcome with hresult | ⟨hendless, -⟩
  · exact hresult
  · cases hendless

/-- A check that does not come to an end, although panics are contained and no test
    panics: the message of the guard behind the slot has none. -/
theorem check_endlessRealm :
    Sample.endlessRealm.Reached ∧ Sample.endlessRealm.config.containPanics = true ∧
    Sample.endlessRegistry.TestsNeverPanic ∧
    (Sample.endlessRealm.check Sample.recipient .null).outcome = .error .endlessText :=
  ⟨⟨⟨0⟩, Sample.endlessRegistry, {}, [], rfl⟩, rfl, Sample.testsNeverPanic_endlessRegistry, rfl⟩

end Realm

end AnnotationGuards
