import AnnotationGuards.Proofs.Chain.Checks
import AnnotationGuards.Proofs.Program.Widening

/-! # Where a check stops

    A check stops at the first guard of the chain that does not pass the value, and
    answers with the error of that guard. What such an error tells of the value is
    the value as it is shown, if the test has said no, and otherwise no more than the
    name of the value's type.

    * `StopsAt`: a check stops at this place of the chain, with this error.
    * `runChain_eq_error_iff`: it answers with an error exactly if it stops somewhere.
    * `StopsAt.violation_eq`: where values are not to be shown, the guard alone
      determines the report.
    * `exists_texts`, `StopsAt.internal_eq`: what is said where a test cannot run is
      determined by the guard and the name of the value's type. -/

namespace AnnotationGuards

variable {σ : Type} {v w : Value} {e : CheckError}

/-! ## One guard -/

namespace GuardInstance

variable {g : GuardInstance σ}

/-- What the error of a guard says, and why. -/
theorem stop_cases (h : (g.check v).1 = .ok (.error e)) :
    ¬ g.Passes v ∧ ((g.Yields v false ∧ e = .violation (g.violation v)) ∨
      ∃ reason, g.CannotRun v reason ∧ e = .internal (g.description ++ ": " ++ reason)) := by
  have hstops : ¬ g.Passes v := by
    intro hpasses
    rw [hpasses.check_eq] at h
    cases h
  refine ⟨hstops, ?_⟩
  rcases g.passes_or_stops v with hpasses | ⟨hskip, hno | ⟨reason, hstuck⟩ | ⟨payload, hpanic⟩⟩
  · exact absurd hpasses hstops
  · rw [check_of_yields hskip hno] at h
    cases h
    exact Or.inl ⟨hno, rfl⟩
  · rw [check_of_cannotRun hskip hstuck] at h
    cases h
    exact Or.inr ⟨reason, hstuck, rfl⟩
  · rw [check_of_panics hskip hpanic] at h
    cases h

theorem eq_of_check_eq_violation {x : Violation}
    (h : (g.check v).1 = .ok (.error (.violation x))) : x = g.violation v := by
  rcases (stop_cases h).2 with ⟨-, hviolation⟩ | ⟨reason, -, hinternal⟩
  · cases hviolation
    rfl
  · cases hinternal

theorem exists_reason_of_check_eq_internal {x : String}
    (h : (g.check v).1 = .ok (.error (.internal x))) :
    ∃ reason, g.CannotRun v reason ∧ x = g.description ++ ": " ++ reason := by
  rcases (stop_cases h).2 with ⟨-, hviolation⟩ | ⟨reason, hstuck, hinternal⟩
  · cases hviolation
  · cases hinternal
    exact ⟨reason, hstuck, rfl⟩

/-- What is said of a test that cannot run, on a value whose type has this name: that
    the value does not widen to the primitive, or that the handler is of another
    class. -/
def reasons (typeName : String) (p : Primitive) : List String :=
  ["cannot widen " ++ typeName ++ " value to " ++ p.name,
    "handler instance does not match its test method"]

/-- Whether a value widens is told by the name of its type. -/
theorem cannotWiden_iff_of_typeName {m : MatchedTest σ} {p : Primitive}
    (h : v.typeName = w.typeName) : m.CannotWiden v p ↔ m.CannotWiden w p := by
  have hnull : v = .null ↔ w = .null := by
    rw [← v.isNull_iff, ← w.isNull_iff, v.isNull_eq_named, w.isNull_eq_named, h]
  have hwiden : v.widen? p = none ↔ w.widen? p = none := Value.widen?_eq_none_of_typeName h
  unfold MatchedTest.CannotWiden
  rw [Ne, Ne, hnull, hwiden]

/-- The name of the value's type decides why a test cannot run. -/
theorem CannotRun.eq_of_typeName {reason reason' : String} (hv : g.CannotRun v reason)
    (hw : g.CannotRun w reason') (h : v.typeName = w.typeName) : reason = reason' := by
  cases hv with
  | @widening p hp =>
    cases hw with
    | @widening q hq =>
      have hsame : p = q := Option.some.inj (hp.1.symm.trans hq.1)
      rw [hsame, h]
    | foreign hnone _ => exact absurd ((cannotWiden_iff_of_typeName h).mp hp) (hnone p)
  | foreign hnone _ =>
    cases hw with
    | @widening q hq => exact absurd ((cannotWiden_iff_of_typeName h).mpr hq) (hnone q)
    | foreign _ _ => rfl

/-- Every reason that the guard's test has for not running names the same primitive, if
    it names one. -/
theorem exists_reasons (g : GuardInstance σ) :
    ∃ p, ∀ v reason, g.CannotRun v reason → reason ∈ reasons v.typeName p := by
  refine ⟨g.test.widenTo.getD .boolean, ?_⟩
  intro v reason h
  cases h with
  | @widening p hp =>
    have hwiden : g.test.widenTo.getD .boolean = p := by rw [hp.1]; rfl
    rw [hwiden]
    exact List.mem_cons_self
  | foreign _ _ => exact List.mem_cons_of_mem _ List.mem_cons_self

/-- A value that is concealed does not show in the report. -/
theorem violation_eq_of_sensitive (h : g.target.sensitive = true) (v w : Value) :
    g.violation v = g.violation w ∧ (g.violation v).value = concealed := by
  unfold violation showValue
  rw [h]
  exact ⟨rfl, rfl⟩

end GuardInstance

/-! ## Chains -/

/-- The check of the value comes to the guard at this place of the chain, and this
    guard answers with the error. -/
def StopsAt (chain : List (GuardInstance σ)) (v : Value) (i : Nat) (e : CheckError) : Prop :=
  ∃ g, chain[i]? = some g ∧ (∀ b ∈ chain.take i, b.Passes v) ∧ (g.check v).1 = .ok (.error e)

variable {g : GuardInstance σ} {chain rest : List (GuardInstance σ)} {i : Nat}

theorem stopsAt_zero_iff : StopsAt (g :: rest) v 0 e ↔ (g.check v).1 = .ok (.error e) := by
  constructor
  · rintro ⟨g', hg', -, he⟩
    cases hg'
    exact he
  · intro he
    exact ⟨g, rfl, by simp, he⟩

theorem stopsAt_succ_iff : StopsAt (g :: rest) v (i + 1) e ↔ g.Passes v ∧ StopsAt rest v i e := by
  unfold StopsAt
  simp only [List.getElem?_cons_succ, List.take_succ_cons, List.forall_mem_cons]
  constructor
  · rintro ⟨g', hg', ⟨hpasses, hbefore⟩, he⟩
    exact ⟨hpasses, g', hg', hbefore, he⟩
  · rintro ⟨hpasses, g', hg', hbefore, he⟩
    exact ⟨g', hg', ⟨hpasses, hbefore⟩, he⟩

/-- **Where a check stops**: it answers with an error exactly if it stops somewhere with
    this error. The induction goes along the chain, and what its first guard makes of
    the value decides between the place 0 and the places after it. -/
theorem runChain_eq_error_iff (chain : List (GuardInstance σ)) (v : Value) (e : CheckError) :
    (runChain chain v).1 = .ok (.error e) ↔ ∃ i, StopsAt chain v i e := by
  induction chain with
  | nil =>
    constructor
    · intro h
      cases h
    · rintro ⟨i, g, hg, -⟩
      cases hg
  | cons g rest ih =>
    by_cases hpasses : g.Passes v
    · have hrun : (runChain (g :: rest) v).1 = (runChain rest v).1 := by
        rw [runChain_of_passes hpasses]
      have hzero : ¬ StopsAt (g :: rest) v 0 e := by
        intro h
        exact (GuardInstance.stop_cases (stopsAt_zero_iff.mp h)).1 hpasses
      rw [hrun, ih]
      constructor
      · rintro ⟨i, hi⟩
        exact ⟨i + 1, stopsAt_succ_iff.mpr ⟨hpasses, hi⟩⟩
      · rintro ⟨_ | i, hi⟩
        · exact absurd hi hzero
        · exact ⟨i, (stopsAt_succ_iff.mp hi).2⟩
    · have hrun : (runChain (g :: rest) v).1 = (g.check v).1 := by
        rw [runChain_of_stops hpasses]
      have hzero : StopsAt (g :: rest) v 0 e ↔ (g.check v).1 = .ok (.error e) := stopsAt_zero_iff
      rw [hrun, ← hzero]
      constructor
      · intro h
        exact ⟨0, h⟩
      · rintro ⟨_ | i, hi⟩
        · exact hi
        · exact absurd (stopsAt_succ_iff.mp hi).1 hpasses

/-! ## Two checks that stop at one place -/

/-- Two checks that stop at one place of a chain stop at one guard. -/
theorem StopsAt.exists_common {x y : CheckError} (hx : StopsAt chain v i x)
    (hy : StopsAt chain w i y) :
    ∃ g ∈ chain, (g.check v).1 = .ok (.error x) ∧ (g.check w).1 = .ok (.error y) := by
  obtain ⟨g, hg, -, hgx⟩ := hx
  obtain ⟨g', hg', -, hgy⟩ := hy
  have hsame : g' = g := Option.some.inj (hg'.symm.trans hg)
  subst hsame
  exact ⟨g', List.mem_of_getElem? hg, hgx, hgy⟩

/-- Reports of values that are not to be shown do not depend on the value. -/
theorem StopsAt.violation_eq {x y : Violation} (hsensitive : ∀ g ∈ chain, g.target.sensitive = true)
    (hx : StopsAt chain v i (.violation x)) (hy : StopsAt chain w i (.violation y)) :
    x = y ∧ x.value = GuardInstance.concealed := by
  obtain ⟨g, hg, hgx, hgy⟩ := hx.exists_common hy
  rw [GuardInstance.eq_of_check_eq_violation hgx, GuardInstance.eq_of_check_eq_violation hgy]
  exact GuardInstance.violation_eq_of_sensitive (hsensitive g hg) v w

/-- What can be said at this place of the chain of a value on which the test cannot
    run: the description of the target, and a reason that at most names the type of
    the value. -/
theorem exists_texts (chain : List (GuardInstance σ)) (i : Nat) :
    ∃ (description : String) (p : Primitive), ∀ v x, StopsAt chain v i (.internal x) →
      ∃ reason ∈ GuardInstance.reasons v.typeName p, x = description ++ ": " ++ reason := by
  cases hg : chain[i]? with
  | none =>
    refine ⟨"", .boolean, ?_⟩
    rintro v x ⟨g, hg', -⟩
    rw [hg] at hg'
    cases hg'
  | some g =>
    obtain ⟨p, hp⟩ := g.exists_reasons
    refine ⟨g.description, p, ?_⟩
    rintro v x ⟨g', hg', -, hx⟩
    have hsame : g' = g := Option.some.inj (hg'.symm.trans hg)
    subst hsame
    obtain ⟨reason, hstuck, rfl⟩ := GuardInstance.exists_reason_of_check_eq_internal hx
    exact ⟨reason, hp v reason hstuck, rfl⟩

/-- Values whose types have the same name are told apart by no such text. -/
theorem StopsAt.internal_eq {x y : String} (hx : StopsAt chain v i (.internal x))
    (hy : StopsAt chain w i (.internal y)) (h : v.typeName = w.typeName) : x = y := by
  obtain ⟨g, -, hgx, hgy⟩ := hx.exists_common hy
  obtain ⟨reason, hstuck, rfl⟩ := GuardInstance.exists_reason_of_check_eq_internal hgx
  obtain ⟨reason', hstuck', rfl⟩ := GuardInstance.exists_reason_of_check_eq_internal hgy
  rw [hstuck.eq_of_typeName hstuck' h]

end AnnotationGuards
