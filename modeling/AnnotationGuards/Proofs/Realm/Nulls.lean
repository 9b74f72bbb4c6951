import AnnotationGuards.Proofs.Chain.Nulls
import AnnotationGuards.Proofs.Realm.Chains

/-! # Checks of nulls

    What a check makes of a null at a slot of a reference type. Each guard of the chain,
    whether it stands at the slot or is used through another guard, goes by its own
    definition: it tests null, or a null passes it unseen.

    * `Realm.exists_marking_of_linksTo`: the definition of a guard of the chain, and what
      it decides about nulls.
    * `Realm.null_discipline`: what becomes of a null on its way through the chain. -/

namespace AnnotationGuards

variable {σ : Type} {c : LinkContext σ} {realm : Realm σ} {address : SlotAddress}
  {guards : SlotGuards} {chain : List (GuardInstance σ)} {g : GuardInstance σ}

namespace Realm

theorem definitionFor_fst (h : realm.Coherent c) (t : TypeId) :
    (realm.definitionFor t).1 = c.registry.definition c.config t := by
  obtain ⟨realm', heq, -⟩ := definitionFor_spec h t
  rw [heq]

/-- The definition of a guard of the chain has a marking, which decides whether the guard
    skips nulls and how its test may fit the type. -/
theorem exists_marking_of_linksTo (h : realm.Coherent c)
    (hlinks : realm.LinksTo address guards chain)
    (htype : realm.registry.primitive? guards.target.staticType = none) (hg : g ∈ chain) :
    ∃ d marking, (realm.definitionFor g.annotation.type).1 = .ok (some d) ∧
      d.marking = some marking ∧ g.skipsNull = !marking.testsNull ∧
      g.test.Fits realm.registry marking.testsNull guards.target.staticType := by
  obtain ⟨-, houtcome⟩ := (linksTo_iff h).mp hlinks
  obtain ⟨n, hn⟩ := Link.exists_worksAt houtcome hg
  rw [h.registry_eq] at htype
  obtain ⟨d, marking, hdefinition, hmarking, hskips, hfits⟩ := hn.exists_marking htype
  refine ⟨d, marking, ?_, hmarking, hskips, ?_⟩
  · rw [definitionFor_fst h]
    exact hdefinition
  · rw [h.registry_eq]
    exact hfits

/-- **Nulls at a slot of a reference type.** A check of a null runs what the link runs,
    and then the null goes through the chain:

    1. where it comes to a guard, the definition of this guard decides. If the guard
       tests null, its test runs on the null; only a test that is declared for the
       handlers of another class cannot, and the check ends there. If the guard does
       not test null, the check goes on as if the guard were not in the chain;
    2. a guard whose test has a primitive parameter passes a null unseen, and runs its
       test on no null whatever value it is given;
    3. so the null passes without a test if no guard of the chain tests null. -/
theorem null_discipline (h : realm.Reached) (hlinks : realm.LinksTo address guards chain)
    (htype : realm.registry.primitive? guards.target.staticType = none) :
    ((realm.check address .null).outcome = (runChain chain .null).1.mapError .panicked ∧
      ∃ builds, (∀ call ∈ builds, call.isTest = false) ∧
        (realm.check address .null).calls = builds ++ (runChain chain .null).2) ∧
    (∀ before g after, chain = before ++ g :: after → (∀ b ∈ before, b.Passes .null) →
      ∃ d marking, (realm.definitionFor g.annotation.type).1 = .ok (some d) ∧
        d.marking = some marking ∧
        (marking.testsNull = true →
          (∀ code, g.test.test.run? g.handler = some code →
            ∃ later, (runChain chain .null).2 =
              GuardInstance.testCalls before .null ++ .tested g.test.test.label .null :: later) ∧
          (g.test.test.run? g.handler = none →
            runChain chain .null = (.ok (.error (.internal (g.description ++ ": " ++
                "handler instance does not match its test method"))),
              GuardInstance.testCalls before .null))) ∧
        (marking.testsNull = false → runChain chain .null = runChain (before ++ after) .null)) ∧
    (∀ g ∈ chain, (realm.registry.primitive? g.test.test.param).isSome = true →
      g.check .null = (.ok (.ok ()), []) ∧
        ∀ v label, Call.tested label .null ∉ (g.check v).2) ∧
    ((∀ g ∈ chain, ∀ d marking, (realm.definitionFor g.annotation.type).1 = .ok (some d) →
        d.marking = some marking → marking.testsNull = false) →
      (realm.check address .null).outcome = .ok (.ok ()) ∧
        ∀ call ∈ (realm.check address .null).calls, call.isTest = false) := by
  have hcoherent := h.coherent
  have hcheck := check_of_linksTo hcoherent hlinks .null
  refine ⟨hcheck, ?_, ?_, ?_⟩
  · rintro before g after rfl hbefore
    have hg : g ∈ before ++ g :: after := List.mem_append_right _ List.mem_cons_self
    obtain ⟨d, marking, hdefinition, hmarking, hskips, -⟩ :=
      exists_marking_of_linksTo hcoherent hlinks htype hg
    refine ⟨d, marking, hdefinition, hmarking, ?_, ?_⟩
    · intro htests
      have hsees : g.skipsNull = false := by rw [hskips, htests]; rfl
      constructor
      · intro code hcode
        exact exists_runChain_calls hbefore (GuardInstance.check_null_of_code hsees hcode)
      · intro hforeign
        rw [runChain_append hbefore]
        unfold runChain
        rw [GuardInstance.check_null_of_foreign hsees hforeign]
        simp
    · intro htests
      have hskip : g.skipsNull = true := by rw [hskips, htests]; rfl
      exact runChain_of_skips hbefore (GuardInstance.skips_null hskip)
  · intro g hg hparam
    obtain ⟨d, marking, -, -, hskips, hfits⟩ :=
      exists_marking_of_linksTo hcoherent hlinks htype hg
    have hskip : g.skipsNull = true :=
      GuardInstance.skipsNull_of_primitive hfits htype hskips hparam
    exact ⟨GuardInstance.check_null_of_skipsNull hskip, GuardInstance.null_not_tested hskip⟩
  · intro hnone
    have hall : ∀ g ∈ chain, g.skips .null = true := by
      intro g hg
      obtain ⟨d, marking, hdefinition, hmarking, hskips, -⟩ :=
        exists_marking_of_linksTo hcoherent hlinks htype hg
      have htests : marking.testsNull = false := hnone g hg d marking hdefinition hmarking
      exact GuardInstance.skips_null (by rw [hskips, htests]; rfl)
    obtain ⟨houtcome, builds, hbuilds, hcalls⟩ := hcheck
    rw [runChain_of_all_skip hall] at houtcome hcalls
    refine ⟨houtcome, ?_⟩
    rw [hcalls, List.append_nil]
    exact hbuilds

end Realm

/-! ## The small program, and one with a guard that tests null -/

namespace Sample

/-- The inner guard tests null. -/
def strictRegistry : Registry Unit :=
  registry.setKind present (.annotationType {
    metas := [{ type := .guardMarker
                attributes := [("handler", .type presentHandler), ("testsNull", .bool true)] }] })

def strictRealm : Realm Unit := Realm.fresh ⟨0⟩ strictRegistry {}

/-- The inner guard at work on the recipient, where it tests null. -/
def strictLink : GuardInstance Unit where
  target := recipientGuards.target
  annotation := { type := present }
  path := ["@Required", "@Present"]
  description := "parameter 'to' (#0) of Service.send(lang.Object)"
  message := "@Present"
  test := ⟨{ label := .silent, param := .object
             run? := fun _ => some fun v => .ok (!v.isNull) }, none⟩
  handler := ()
  skipsNull := false
  maxValueLength := 200

/-- The inner guard as it is, which skips null. -/
def recipientChain : List (GuardInstance Unit) := [{ strictLink with skipsNull := true }]

theorem linksTo_recipientChain :
    Sample.realm.LinksTo recipient recipientGuards recipientChain :=
  ⟨scanned, locate_recipient, rfl⟩

theorem linksTo_strictLink : strictRealm.LinksTo recipient recipientGuards [strictLink] :=
  ⟨_, rfl, rfl⟩

end Sample

namespace Realm

/-- In the small program a null passes without a test, unless the inner guard tests null.
    Then its test runs on the null, although the slot has the outer guard only. -/
theorem null_discipline_sample :
    (Sample.realm.check Sample.recipient .null).outcome = .ok (.ok ()) ∧
    ∃ later, (runChain [Sample.strictLink] .null).2 = .tested .silent .null :: later := by
  have hreached : Sample.realm.Reached := ⟨⟨0⟩, Sample.registry, {}, [], rfl⟩
  have hreached' : Sample.strictRealm.Reached := ⟨⟨0⟩, Sample.strictRegistry, {}, [], rfl⟩
  obtain ⟨-, -, -, hpasses⟩ := null_discipline hreached Sample.linksTo_recipientChain rfl
  obtain ⟨-, hreaches, -, -⟩ := null_discipline hreached' Sample.linksTo_strictLink rfl
  constructor
  · refine (hpasses ?_).1
    intro g hg d marking hdefinition hmarking
    have hsame := List.mem_singleton.mp hg
    subst hsame
    cases hdefinition
    cases hmarking
    rfl
  · obtain ⟨d, marking, hdefinition, hmarking, htests, -⟩ :=
      hreaches [] Sample.strictLink [] rfl (by simp)
    cases hdefinition
    cases hmarking
    exact (htests rfl).1 _ rfl

end Realm

end AnnotationGuards
