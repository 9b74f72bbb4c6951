import AnnotationGuards.Chain.State

/-! # What the check of a chain comes to

    A guard passes a value, or the check ends with it: because its test says no,
    or because its test cannot run. Nothing after that guard has a part in the
    check.

    * `GuardInstance.Passes`, `GuardInstance.Yields`, `GuardInstance.CannotRun`,
      `GuardInstance.Panics`: what a guard makes of a value, read off its test.
    * `GuardInstance.passes_or_stops`: the check of one guard is one of these, and
      runs the test once at most.
    * `GuardInstance.Reports`: what a violation says of the guard and of the value.
    * `ChainEnds`: how a check ends at a chain, and which tests it runs.
    * `exists_chainEnds`, `ChainEnds.runChain_eq`: checks of chains end in just these
      ways. -/

namespace AnnotationGuards

variable {σ : Type} {v : Value}

/-- The code of the test never panics. -/
def Test.NeverPanics (t : Test σ) : Prop :=
  ∀ state code, t.run? state = some code → ∀ v payload, code v ≠ .error payload

/-! ## What a test receives -/

namespace MatchedTest

/-- The value as the test receives it: widened if the test asks for it. -/
def received (m : MatchedTest σ) (v : Value) : Value := (m.widenTo.bind v.widen?).getD v

/-- The test asks for a primitive to which the value does not widen. Nulls are
    passed as they are. -/
def CannotWiden (m : MatchedTest σ) (v : Value) (p : Primitive) : Prop :=
  m.widenTo = some p ∧ v ≠ .null ∧ v.widen? p = none

theorem argument_cases (m : MatchedTest σ) (v : Value) :
    (∃ p, m.CannotWiden v p ∧
      m.argument v = .error ("cannot widen " ++ v.typeName ++ " value to " ++ p.name)) ∨
    ((∀ p, ¬ m.CannotWiden v p) ∧ m.argument v = .ok (m.received v)) := by
  unfold CannotWiden argument received
  cases hwiden : m.widenTo with
  | none => exact Or.inr ⟨fun p h => (by cases h.1), rfl⟩
  | some p =>
    by_cases hnull : v = .null
    · subst hnull
      exact Or.inr ⟨fun _ h => h.2.1 rfl, rfl⟩
    · have hnot := Value.isNull_of_ne hnull
      cases hwidened : v.widen? p with
      | none => exact Or.inl ⟨p, ⟨rfl, hnull, hwidened⟩, by simp [hnot, hwidened]⟩
      | some widened =>
        refine Or.inr ⟨?_, by simp [hnot, hwidened]⟩
        rintro q ⟨hq, -, hnone⟩
        cases hq
        rw [hwidened] at hnone
        cases hnone

end MatchedTest

/-! ## What one guard makes of a value -/

namespace GuardInstance

variable {g : GuardInstance σ}

/-- The value is a null, which the guard passes unseen. -/
def skips (g : GuardInstance σ) (v : Value) : Bool := g.skipsNull && v.isNull

/-- The guard's test can run on the value, and this is its verdict. -/
def Yields (g : GuardInstance σ) (v : Value) (verdict : Bool) : Prop :=
  (∀ p, ¬ g.test.CannotWiden v p) ∧
    ∃ code, g.test.test.run? g.handler = some code ∧ code (g.test.received v) = .ok verdict

/-- Why the guard's test cannot run on the value. -/
inductive CannotRun (g : GuardInstance σ) (v : Value) : String → Prop
  | widening {p : Primitive} (h : g.test.CannotWiden v p) :
    CannotRun g v ("cannot widen " ++ v.typeName ++ " value to " ++ p.name)
  /-- The test was not declared for the state of the guard's handler. -/
  | foreign (hwiden : ∀ p, ¬ g.test.CannotWiden v p) (h : g.test.test.run? g.handler = none) :
    CannotRun g v "handler instance does not match its test method"

/-- The guard's test can run on the value, and it panics. -/
def Panics (g : GuardInstance σ) (v : Value) (payload : Panic) : Prop :=
  (∀ p, ¬ g.test.CannotWiden v p) ∧
    ∃ code, g.test.test.run? g.handler = some code ∧ code (g.test.received v) = .error payload

/-- The guard skips the value, or its test says yes. -/
def Passes (g : GuardInstance σ) (v : Value) : Prop := g.skips v = true ∨ g.Yields v true

/-- The run of the guard's test on the value. -/
def testCall (g : GuardInstance σ) (v : Value) : Call :=
  .tested g.test.test.label (g.test.received v)

/-- The tests of those guards that do not skip the value, in order. -/
def testCalls (chain : List (GuardInstance σ)) (v : Value) : List Call :=
  (chain.filter fun g => !g.skips v).map fun g => g.testCall v

theorem testCalls_cons (g : GuardInstance σ) (rest : List (GuardInstance σ)) (v : Value) :
    testCalls (g :: rest) v = testCalls [g] v ++ testCalls rest v := by
  cases h : g.skips v <;> simp [testCalls, h]

theorem check_of_skips (h : g.skips v = true) : g.check v = (.ok (.ok ()), testCalls [g] v) := by
  have hcalls : testCalls [g] v = [] := by simp [testCalls, h]
  unfold skips at h
  unfold check
  rw [if_pos h, hcalls]

/-- A test that can run is run once, on the value that it receives. -/
theorem check_of_code {code : Value → Except Panic Bool} (hskip : g.skips v = false)
    (hwiden : ∀ p, ¬ g.test.CannotWiden v p) (hcode : g.test.test.run? g.handler = some code) :
    g.check v = (((code (g.test.received v)).map .ok).map (g.settle v), [g.testCall v]) := by
  have hargument : g.test.argument v = .ok (g.test.received v) := by
    rcases g.test.argument_cases v with ⟨p, hp, -⟩ | ⟨-, hargument⟩
    · exact absurd hp (hwiden p)
    · exact hargument
  unfold skips at hskip
  unfold check MatchedTest.run
  simp only [hskip, Bool.false_eq_true, if_false, hargument, hcode]
  rfl

theorem check_of_yields {verdict : Bool} (hskip : g.skips v = false) (h : g.Yields v verdict) :
    g.check v = (.ok (g.settle v (.ok verdict)), [g.testCall v]) := by
  obtain ⟨hwiden, code, hcode, hverdict⟩ := h
  rw [check_of_code hskip hwiden hcode, hverdict]
  rfl

theorem check_of_panics {payload : Panic} (hskip : g.skips v = false) (h : g.Panics v payload) :
    g.check v = (.error payload, [g.testCall v]) := by
  obtain ⟨hwiden, code, hcode, hpanic⟩ := h
  rw [check_of_code hskip hwiden hcode, hpanic]
  rfl

theorem check_of_cannotRun {reason : String} (hskip : g.skips v = false)
    (h : g.CannotRun v reason) :
    g.check v = (.ok (.error (.internal (g.description ++ ": " ++ reason))), []) := by
  unfold skips at hskip
  unfold check MatchedTest.run
  simp only [hskip, Bool.false_eq_true, if_false]
  rcases g.test.argument_cases v with ⟨p, hp, hargument⟩ | ⟨hwiden, hargument⟩
  · rw [hargument]
    cases h with
    | @widening q hq =>
      have hsame : q = p := Option.some.inj (hq.1.symm.trans hp.1)
      subst hsame
      rfl
    | foreign hnone _ => exact absurd hp (hnone p)
  · rw [hargument]
    cases h with
    | @widening q hq => exact absurd hq (hwiden q)
    | foreign _ hforeign =>
      simp only [hforeign]
      rfl

/-- **One guard**: it passes the value, or its test says no, cannot run, or panics. -/
theorem passes_or_stops (g : GuardInstance σ) (v : Value) :
    g.Passes v ∨ g.skips v = false ∧
      (g.Yields v false ∨ (∃ reason, g.CannotRun v reason) ∨ ∃ payload, g.Panics v payload) := by
  cases hskip : g.skips v with
  | true => exact Or.inl (Or.inl hskip)
  | false =>
    rcases g.test.argument_cases v with ⟨p, hp, -⟩ | ⟨hwiden, -⟩
    · exact Or.inr ⟨rfl, Or.inr (Or.inl ⟨_, .widening hp⟩)⟩
    · cases hcode : g.test.test.run? g.handler with
      | none => exact Or.inr ⟨rfl, Or.inr (Or.inl ⟨_, .foreign hwiden hcode⟩)⟩
      | some code =>
        rcases hverdict : code (g.test.received v) with payload | (_ | _)
        · exact Or.inr ⟨rfl, Or.inr (Or.inr ⟨payload, hwiden, code, hcode, hverdict⟩)⟩
        · exact Or.inr ⟨rfl, Or.inl ⟨hwiden, code, hcode, hverdict⟩⟩
        · exact Or.inl (Or.inr ⟨hwiden, code, hcode, hverdict⟩)

/-- A test that does not panic has one way less to end. -/
theorem check_cases (g : GuardInstance σ) (v : Value) (hcalm : g.test.test.NeverPanics) :
    g.Passes v ∨ g.skips v = false ∧ (g.Yields v false ∨ ∃ reason, g.CannotRun v reason) := by
  rcases g.passes_or_stops v with hpasses | ⟨hskip, hno | hstuck | ⟨payload, hpanic⟩⟩
  · exact Or.inl hpasses
  · exact Or.inr ⟨hskip, Or.inl hno⟩
  · exact Or.inr ⟨hskip, Or.inr hstuck⟩
  · obtain ⟨-, code, hcode, hpanics⟩ := hpanic
    exact absurd hpanics (hcalm g.handler code hcode _ payload)

theorem Passes.check_eq (h : g.Passes v) : g.check v = (.ok (.ok ()), testCalls [g] v) := by
  cases hskip : g.skips v with
  | true => exact check_of_skips hskip
  | false =>
    have hyields : g.Yields v true := h.resolve_left (by simp [hskip])
    have hcalls : testCalls [g] v = [g.testCall v] := by simp [testCalls, hskip]
    rw [check_of_yields hskip hyields, hcalls]
    rfl

/-- A check runs at most the guard's own test. -/
theorem eq_testCall_of_mem {call : Call} (h : call ∈ (g.check v).2) :
    g.skips v = false ∧ call = g.testCall v := by
  rcases g.passes_or_stops v with hpasses | ⟨hskip, hno | ⟨reason, hstuck⟩ | ⟨payload, hpanic⟩⟩
  · rw [hpasses.check_eq] at h
    obtain ⟨g', hg', rfl⟩ := List.mem_map.mp h
    obtain ⟨hmem, hskip⟩ := List.mem_filter.mp hg'
    have hsame : g' = g := List.mem_singleton.mp hmem
    subst hsame
    exact ⟨by simpa using hskip, rfl⟩
  · rw [check_of_yields hskip hno] at h
    exact ⟨hskip, List.mem_singleton.mp h⟩
  · rw [check_of_cannotRun hskip hstuck] at h
    cases h
  · rw [check_of_panics hskip hpanic] at h
    exact ⟨hskip, List.mem_singleton.mp h⟩

end GuardInstance

/-! ## What a violation says -/

namespace GuardInstance

/-- How a report shows a value: not at all where it must not, and otherwise by its type and
    its text, of which no more than so many characters are shown. -/
inductive ShownAs (sensitive : Bool) (most : Nat) : Value → String → Prop
  | concealed (v : Value) (h : sensitive = true) : ShownAs sensitive most v "(concealed)"
  | null (h : sensitive = false) : ShownAs sensitive most .null "null"
  | whole {v : Value} (h : sensitive = false) (hvalue : v ≠ .null)
    (hlength : v.text.length ≤ most) : ShownAs sensitive most v (v.typeName ++ " " ++ v.text)
  /-- Three dots stand for the rest. -/
  | cut {v : Value} {start rest : String} (h : sensitive = false) (hvalue : v ≠ .null)
    (htext : v.text = start ++ rest) (hlength : start.length = most) (hrest : rest ≠ "") :
    ShownAs sensitive most v (v.typeName ++ " " ++ (start ++ "..."))

/-- The violation is this guard's report on the value. -/
structure Reports (g : GuardInstance σ) (v : Value) (x : Violation) : Prop where
  guardMessage : x.guardMessage = g.message
  target : x.target = g.description
  chain : x.chain = g.path
  value : ShownAs g.target.sensitive g.maxValueLength.toNat v x.value
  /-- One line says all of it. -/
  message : x.message = g.description ++ " violated " ++ " -> ".intercalate g.path ++ ": " ++
    g.message ++ "; got " ++ x.value

theorem truncate_of_le {text : String} {most : Nat} (h : text.length ≤ most) :
    truncate text most = text :=
  if_pos h

/-- A text that is too long is cut into what is shown of it and the rest. -/
theorem exists_truncate_of_lt {text : String} {most : Nat} (h : most < text.length) :
    ∃ start rest, text = start ++ rest ∧ start.length = most ∧ rest ≠ "" ∧
      truncate text most = start ++ "..." := by
  refine ⟨.ofList (text.toList.take most), .ofList (text.toList.drop most), ?_, ?_, ?_,
    if_neg (Nat.not_le.mpr h)⟩
  · rw [← String.ofList_append, List.take_append_drop, String.ofList_toList]
  · rw [String.length_ofList, List.length_take, String.length_toList]
    omega
  · intro hempty
    have hlength := congrArg String.length hempty
    rw [String.length_ofList, List.length_drop, String.length_toList] at hlength
    simp at hlength
    omega

theorem truncate_append {start rest : String} (hrest : rest ≠ "") :
    truncate (start ++ rest) start.length = start ++ "..." := by
  have hlong : ¬ (start ++ rest).length ≤ start.length := by
    have hpositive : rest.length ≠ 0 := by simpa using hrest
    rw [String.length_append]
    omega
  unfold truncate
  rw [if_neg hlong, String.toList_append, ← String.length_toList, List.take_left,
    String.ofList_toList]

theorem shownAs_showValue (sensitive : Bool) (most : UInt64) (v : Value) :
    ShownAs sensitive most.toNat v (showValue sensitive most v) := by
  unfold showValue
  cases sensitive with
  | true => exact .concealed v rfl
  | false =>
    -- A null is shown without its type, so it is no short text.
    by_cases hnull : v = .null
    · subst hnull
      exact .null rfl
    · simp only [Value.isNull_of_ne hnull, Bool.false_eq_true, if_false]
      by_cases hlength : v.text.length ≤ most.toNat
      · rw [truncate_of_le hlength]
        exact .whole rfl hnull hlength
      · obtain ⟨start, rest, htext, hstart, hrest, hcut⟩ :=
          exists_truncate_of_lt (Nat.not_le.mp hlength)
        rw [hcut]
        exact .cut rfl hnull htext hstart hrest

/-- A value is shown in one way. -/
theorem ShownAs.eq_showValue {sensitive : Bool} {most : UInt64} {shown : String}
    (h : ShownAs sensitive most.toNat v shown) : shown = showValue sensitive most v := by
  unfold showValue
  cases h with
  | concealed _ h => rw [if_pos h]; rfl
  | null h => simp [h, Value.isNull]
  | whole h hvalue hlength =>
    simp [h, Value.isNull_of_ne hvalue, truncate_of_le hlength]
  | cut h hvalue htext hlength hrest =>
    simp [h, Value.isNull_of_ne hvalue, htext, ← hlength, truncate_append hrest]

/-- What a guard builds is its report, and nothing else is. -/
theorem reports_iff {g : GuardInstance σ} {x : Violation} :
    g.Reports v x ↔ x = g.violation v := by
  constructor
  · rintro ⟨hguard, htarget, hchain, hvalue, hmessage⟩
    have hshown := hvalue.eq_showValue
    rcases x with ⟨message, guardMessage, target, chain, value⟩
    dsimp only at hguard htarget hchain hshown hmessage
    subst hguard htarget hchain hshown hmessage
    rfl
  · rintro rfl
    exact ⟨rfl, rfl, rfl, shownAs_showValue .., rfl⟩

end GuardInstance

/-! ## What a chain makes of a value -/

/-- How a check of the value ends at a chain, and which tests it runs: all those
    of guards that do not skip the value, up to the first guard that does not pass
    it. If that guard's own test has said no, it is among them, and the check ends with the
    guard's report on the value. -/
inductive ChainEnds (v : Value) : List (GuardInstance σ) → CheckResult → List Call → Prop
  | passed {chain : List (GuardInstance σ)} (h : ∀ g ∈ chain, g.Passes v) :
    ChainEnds v chain (.ok ()) (GuardInstance.testCalls chain v)
  | broken (before after : List (GuardInstance σ)) {g : GuardInstance σ} {x : Violation}
    (hbefore : ∀ b ∈ before, b.Passes v) (hskip : g.skips v = false) (h : g.Yields v false)
    (hreport : g.Reports v x) :
    ChainEnds v (before ++ g :: after) (.error (.violation x))
      (GuardInstance.testCalls before v ++ [g.testCall v])
  | stuck (before after : List (GuardInstance σ)) {g : GuardInstance σ} {reason : String}
    (hbefore : ∀ b ∈ before, b.Passes v) (hskip : g.skips v = false) (h : g.CannotRun v reason) :
    ChainEnds v (before ++ g :: after) (.error (.internal (g.description ++ ": " ++ reason)))
      (GuardInstance.testCalls before v)

variable {g : GuardInstance σ} {chain before rest : List (GuardInstance σ)} {result : CheckResult}
  {calls : List Call}

/-- One guard that passes the value changes nothing but the record of tests. -/
theorem ChainEnds.cons (hg : g.Passes v) (h : ChainEnds v rest result calls) :
    ChainEnds v (g :: rest) result (GuardInstance.testCalls [g] v ++ calls) := by
  cases h with
  | passed h =>
    rw [← GuardInstance.testCalls_cons]
    exact .passed (List.forall_mem_cons.mpr ⟨hg, h⟩)
  | broken before after hbefore hskip h hreport =>
    rw [← List.append_assoc, ← GuardInstance.testCalls_cons]
    exact .broken (g :: before) after (List.forall_mem_cons.mpr ⟨hg, hbefore⟩) hskip h hreport
  | stuck before after hbefore hskip h =>
    rw [← GuardInstance.testCalls_cons]
    exact .stuck (g :: before) after (List.forall_mem_cons.mpr ⟨hg, hbefore⟩) hskip h

theorem runChain_of_passes (hg : g.Passes v) (rest : List (GuardInstance σ)) :
    runChain (g :: rest) v =
      ((runChain rest v).1, GuardInstance.testCalls [g] v ++ (runChain rest v).2) := by
  rw [runChain, hg.check_eq]

/-- With a guard that does not pass the value the check is over. -/
theorem runChain_of_stops (hg : ¬ g.Passes v) (rest : List (GuardInstance σ)) :
    runChain (g :: rest) v = g.check v := by
  unfold runChain
  rcases g.passes_or_stops v with hpasses | ⟨hskip, hno | ⟨reason, hstuck⟩ | ⟨payload, hpanic⟩⟩
  · exact absurd hpasses hg
  · rw [GuardInstance.check_of_yields hskip hno]
    rfl
  · rw [GuardInstance.check_of_cannotRun hskip hstuck]
  · rw [GuardInstance.check_of_panics hskip hpanic]

/-- Guards that pass the value hand it on to the rest of the chain. -/
theorem runChain_append (hbefore : ∀ b ∈ before, b.Passes v) (rest : List (GuardInstance σ)) :
    runChain (before ++ rest) v =
      ((runChain rest v).1, GuardInstance.testCalls before v ++ (runChain rest v).2) := by
  induction before with
  | nil => rfl
  | cons b before ih =>
    obtain ⟨hb, hbefore⟩ := List.forall_mem_cons.mp hbefore
    rw [List.cons_append, runChain_of_passes hb, ih hbefore,
      GuardInstance.testCalls_cons b before, List.append_assoc]

/-- A check that has to end in some way does. -/
theorem ChainEnds.runChain_eq (h : ChainEnds v chain result calls) :
    runChain chain v = (.ok result, calls) := by
  cases h with
  | passed h =>
    have hrun := runChain_append h []
    rw [List.append_nil] at hrun
    rw [hrun]
    simp [runChain]
  | broken before after hbefore hskip h hreport =>
    rw [runChain_append hbefore]
    unfold runChain
    rw [GuardInstance.check_of_yields hskip h, GuardInstance.reports_iff.mp hreport]
    rfl
  | stuck before after hbefore hskip h =>
    rw [runChain_append hbefore]
    unfold runChain
    rw [GuardInstance.check_of_cannotRun hskip h]
    simp

/-- How a check ends is determined by the chain and the value. -/
theorem ChainEnds.unique {result' : CheckResult} {calls' : List Call}
    (h : ChainEnds v chain result calls) (h' : ChainEnds v chain result' calls') :
    result = result' ∧ calls = calls' := by
  have hsame := h.runChain_eq.symm.trans h'.runChain_eq
  simpa using hsame

/-- **The check of a chain** ends in one of these ways, as long as no test panics. The
    induction goes along the chain, up to the first guard that does not pass the
    value. -/
theorem exists_chainEnds (hcalm : ∀ g ∈ chain, g.test.test.NeverPanics) (v : Value) :
    ∃ result calls, ChainEnds v chain result calls := by
  induction chain with
  | nil => exact ⟨_, _, .passed (by simp)⟩
  | cons g rest ih =>
    obtain ⟨hg, hrest⟩ := List.forall_mem_cons.mp hcalm
    rcases g.check_cases v hg with hpasses | ⟨hskip, hno | ⟨reason, hstuck⟩⟩
    · obtain ⟨result, calls, hends⟩ := ih hrest
      exact ⟨_, _, hends.cons hpasses⟩
    · exact ⟨_, _, .broken [] rest (by simp) hskip hno (GuardInstance.reports_iff.mpr rfl)⟩
    · exact ⟨_, _, .stuck [] rest (by simp) hskip hstuck⟩

end AnnotationGuards
