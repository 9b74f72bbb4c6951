import AnnotationGuards.Handler.Declaration
import AnnotationGuards.Proofs.Handler.Matching
import AnnotationGuards.Proofs.Program.Widening

/-! # What matched tests receive

    A test is matched to a target by static types, and runs on values. Two things
    could keep it from running: the value might not widen to the parameter's type, and
    the state might be one of another handler class. Neither happens to a value of the
    target's own type and a state that the handler itself has built.

    * `Handler.OfKind`, `Handler.ofKind_declare`: what is declared together fits together,
      kept by every part of a declaration.
    * `Registry.scalar?`: the primitive type that the values of a target have.
    * `MatchedTest.TakesAs`: what a value becomes for a test with a primitive parameter.
    * `MatchedTest.Along.exists_argument`: along a widening chain, the test receives just
      that.
    * `MatchedTest.Fits.exists_argument`: the same for every way in which a test fits. -/

namespace AnnotationGuards

variable {σ H : Type} {r : Registry σ}

/-! ## Handlers of one declaration -/

namespace Handler

variable {kind : StateKind σ H} {handler : Handler σ}

/-- The constructors build states of this kind, and the tests are for such states. -/
structure OfKind (kind : StateKind σ H) (handler : Handler σ) : Prop where
  builds : ∀ c ∈ handler.constructors, ∀ arguments state, c.build arguments = .ok (.ok state) →
    ∃ h, state = kind.put h
  tests : ∀ t ∈ handler.tests, ∃ code : H → Value → Except Panic Bool,
    ∀ state, t.run? state = (kind.get? state).map code

theorem mem_designateLast {constructors : List (Constructor σ)} {c : Constructor σ}
    (h : c ∈ designateLast constructors) : ∃ c' ∈ constructors, c'.build = c.build := by
  induction constructors with
  | nil => cases h
  | cons first rest ih =>
    cases rest with
    | nil =>
      have hc : c = { first with isDesignated := true } := List.mem_singleton.mp h
      exact ⟨first, List.mem_cons_self, by rw [hc]⟩
    | cons second rest =>
      rcases List.mem_cons.mp h with rfl | hrest
      · exact ⟨c, List.mem_cons_self, rfl⟩
      · obtain ⟨c', hc', hbuild⟩ := ih hrest
        exact ⟨c', List.mem_cons_of_mem _ hc', hbuild⟩

/-- What a constructor of the class builds is a state of the class. -/
theorem exists_put_of_build {label : Label} {params : List TypeId} {isPublic : Bool}
    {build : List Injected → Except Panic (Except String H)} {arguments : List Injected} {state : σ}
    (h : (kind.constructor label params isPublic build).build arguments = .ok (.ok state)) :
    ∃ s, state = kind.put s := by
  have hbuild : (build arguments).map (·.map kind.put) = .ok (.ok state) := h
  rcases hresult : build arguments with payload | (message | s)
  · rw [hresult] at hbuild; cases hbuild
  · rw [hresult] at hbuild; cases hbuild
  · rw [hresult] at hbuild; cases hbuild; exact ⟨s, rfl⟩

/-- One more part of the same class. -/
theorem OfKind.add (h : OfKind kind handler) (part : HandlerPart H) :
    OfKind kind (handler.add kind part) := by
  cases part with
  | constructor label params isPublic build =>
    refine ⟨?_, h.tests⟩
    intro c hc arguments state hstate
    rcases List.mem_append.mp hc with hold | hnew
    · exact h.builds c hold arguments state hstate
    · rw [List.mem_singleton.mp hnew] at hstate
      exact exists_put_of_build hstate
  | designated =>
    refine ⟨?_, h.tests⟩
    intro c hc arguments state hstate
    obtain ⟨c', hc', hbuild⟩ := mem_designateLast hc
    rw [← hbuild] at hstate
    exact h.builds c' hc' arguments state hstate
  | test label param code =>
    refine ⟨h.builds, ?_⟩
    intro t ht
    rcases List.mem_append.mp ht with hold | hnew
    · exact h.tests t hold
    · rw [List.mem_singleton.mp hnew]
      exact ⟨code, fun _ => rfl⟩

/-- The induction goes along the parts, with what has been declared so far. -/
theorem ofKind_foldl (h : OfKind kind handler) (parts : List (HandlerPart H)) :
    OfKind kind (parts.foldl (Handler.add kind) handler) := by
  induction parts generalizing handler with
  | nil => exact h
  | cons part rest ih => exact ih (h.add part)

/-- **What is declared together fits together.** -/
theorem ofKind_declare (kind : StateKind σ H) (parts : List (HandlerPart H)) :
    OfKind kind (declare kind parts) := by
  apply ofKind_foldl
  exact ⟨by simp, by simp⟩

/-- A test has code for every state that a constructor of the same declaration has
    built. -/
theorem OfKind.exists_code (h : OfKind kind handler) {c : Constructor σ} {t : Test σ}
    {arguments : List Injected} {state : σ} (hc : c ∈ handler.constructors)
    (hstate : c.build arguments = .ok (.ok state)) (ht : t ∈ handler.tests) :
    ∃ code, t.run? state = some code := by
  obtain ⟨s, rfl⟩ := h.builds c hc arguments state hstate
  obtain ⟨code, hcode⟩ := h.tests t ht
  exact ⟨code s, by rw [hcode, kind.get?_put]; rfl⟩

end Handler

/-! ## Values of a static type -/

/-- The primitive type that values of the static type have: the type itself, or for a
    class that boxes a primitive, the one in the box. -/
def Registry.scalar? (r : Registry σ) (t : TypeId) : Option Primitive :=
  (r.primitive? t).or (r.unboxed? t)

theorem Primitive.typeId_injective {p q : Primitive} (h : p.typeId = q.typeId) : p = q := by
  cases p <;> cases q <;> first | rfl | exact absurd h (by decide)

namespace MatchedTest

variable {m : MatchedTest σ} {v : Value} {p step : Primitive}

/-- The argument is of exactly the parameter's type, and the same integer as the value if
    that type is integral. -/
structure TakesAs (m : MatchedTest σ) (v arg : Value) : Prop where
  runtimeType_eq : arg.runtimeType = m.test.param
  integer_eq : ∀ q : Primitive, m.test.param = q.typeId → q.isIntegral = true →
    arg.asInteger? = v.asInteger?

/-- **Along a widening chain** the test receives a value of exactly its parameter's type,
    and the same integer if that type is integral. -/
theorem Along.exists_argument (h : m.Along p step) (hv : v.primitive? = some p) :
    ∃ arg, m.argument v = .ok arg ∧ m.TakesAs v arg := by
  have htakes : ∀ arg : Value, arg.primitive? = some step →
      (step.isIntegral = true → arg.asInteger? = v.asInteger?) → m.TakesAs v arg := by
    intro arg hprimitive hinteger
    refine ⟨?_, ?_⟩
    · rw [Value.runtimeType_eq_typeId hprimitive, h.param_eq]
    · intro q hq hintegral
      have hstep : step = q := Primitive.typeId_injective (h.param_eq.symm.trans hq)
      subst hstep
      exact hinteger hintegral
  by_cases hsame : step = p
  · -- The test is for the type itself, and takes the value as it is.
    have hwiden : m.widenTo = none := by rw [h.widenTo_eq, if_pos hsame]
    refine ⟨v, ?_, htakes v (hsame ▸ hv) fun _ => rfl⟩
    unfold argument
    rw [hwiden]
  · have hwiden : m.widenTo = some step := by rw [h.widenTo_eq, if_neg hsame]
    obtain ⟨w, hw, hprimitive, hinteger⟩ := Value.exists_widen? hv h.canWiden
    have hnull := Value.isNull_of_ne (Value.ne_null_of_primitive? hv)
    refine ⟨w, ?_, htakes w hprimitive hinteger⟩
    unfold argument
    simp only [hwiden, hnull, hw, Bool.false_eq_true, if_false]

/-- Whatever way the test fits the type, it receives each value of the type, and as one of
    its own parameter's type if this is a primitive. -/
theorem Fits.exists_argument {testsNull : Bool} {t : TypeId} (h : m.Fits r testsNull t)
    (ht : r.scalar? t = some p) (hv : v.primitive? = some p) :
    ∃ arg, m.argument v = .ok arg ∧
      ((r.primitive? m.test.param).isSome = true → m.TakesAs v arg) := by
  unfold Registry.scalar? at ht
  cases h with
  | reference _ hparam hwiden =>
    refine ⟨v, by unfold argument; rw [hwiden], ?_⟩
    intro hprimitive
    rw [hparam] at hprimitive
    cases hprimitive
  | primitive htype h =>
    rw [htype] at ht
    cases ht
    obtain ⟨arg, harg, htakes⟩ := h.exists_argument hv
    exact ⟨arg, harg, fun _ => htakes⟩
  | unboxed htype hbox _ h =>
    rw [htype, hbox] at ht
    cases ht
    obtain ⟨arg, harg, htakes⟩ := h.exists_argument hv
    exact ⟨arg, harg, fun _ => htakes⟩

/-- A test whose parameter is of no primitive type receives every value as it is. -/
theorem Fits.argument_eq {testsNull : Bool} {t : TypeId} (h : m.Fits r testsNull t)
    (hparam : ∀ q : Primitive, m.test.param ≠ q.typeId) (v : Value) : m.argument v = .ok v := by
  cases h with
  | reference _ _ hwiden => unfold argument; rw [hwiden]
  | primitive _ h => exact absurd h.param_eq (hparam _)
  | unboxed _ _ _ h => exact absurd h.param_eq (hparam _)

/-- A test that has code for the state runs it on what it receives. -/
theorem run_of_argument {state : σ} {code : Value → Except Panic Bool} {arg : Value}
    (harg : m.argument v = .ok arg) (hcode : m.test.run? state = some code) :
    m.run state v = ((code arg).map .ok, [.tested m.test.label arg]) := by
  unfold run
  rw [harg]
  dsimp only
  rw [hcode]

end MatchedTest

end AnnotationGuards
