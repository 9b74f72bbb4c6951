import AnnotationGuards.Proofs.Chain.Contribution

/-! # What a chain owes to its annotations

    An annotation that is no guard contributes nothing to the chain of a slot. One
    that is a guard contributes an instance, or it ends the link: through marked
    guards directly, through others by what they are composed of. One that is
    circular always ends the link.

    * `Link.instances_ne_nil`: a guard contributes an instance, unless it ends the
      link.
    * `Link.exists_endlessMessage`: what is behind a text that has no end. -/

namespace AnnotationGuards

open Relation

variable {σ : Type} {c : LinkContext σ} {target : Target} {depth : Nat} {path : List String}
  {a : Annotation}

/-! ## Instances -/

namespace Link

/-- What a marked guard contributes itself is an instance, unless it ends the link. -/
theorem contributeOwn_ne_nil {d : GuardDefinition} (hmarked : d.marking.isSome = true)
    (hok : (contributeOwn c target path a d).result = .ok ()) :
    (contributeOwn c target path a d).instances ≠ [] := by
  rcases contributeOwn_cases c target path a d with
    ⟨-, hsome⟩ | ⟨e, herror⟩ | ⟨payload, hpanic, -⟩ | ⟨htext, -⟩
  · exact hsome hmarked
  · rw [herror] at hok; cases hok
  · rw [hpanic] at hok; cases hok
  · rw [htext] at hok; cases hok

/-- **A guard contributes an instance**, unless it ends the link. The induction goes
    along the guards that it is composed of, down to one that carries the marker. -/
theorem instances_ne_nil (hguard : c.registry.isGuard a.type = true)
    (hok : (contribute c target depth path a).result = .ok ()) :
    (contribute c target depth path a).instances ≠ [] := by
  induction depth generalizing path a with
  | zero => cases hok
  | succ depth ih =>
    cases hdef : c.registry.definition c.config a.type with
    | error e =>
      rw [contribute_of_faulty hdef] at hok
      cases hok
    | ok found =>
      cases found with
      | none =>
        have hnot := Registry.definition_eq_none_iff.mp hdef
        rw [Registry.isGuard_iff.mp hguard] at hnot
        cases hnot
      | some d =>
        obtain ⟨-, himplied, hmarking⟩ := Registry.definition_eq_some hdef
        rw [contribute_of_definition hdef] at hok ⊢
        obtain ⟨_, hown, hrest, hinstances⟩ := Contribution.bind_eq_ok hok
        rw [hinstances]
        -- The instance is the guard's own, or comes from a guard that it is composed of.
        by_cases hmarked : c.registry.Marked a.type
        · exact List.append_ne_nil_of_left_ne_nil
            (contributeOwn_ne_nil (hmarking.mpr hmarked) hown) _
        · obtain ⟨b, hb⟩ := List.exists_mem_of_ne_nil _ (Registry.impliedOf_ne_nil hguard hmarked)
          have hbguard := (Registry.mem_impliedOf.mp hb).2.2
          rw [← himplied] at hb
          obtain ⟨hbok, hbsub⟩ := Contribution.forM_eq_ok hrest hb
          obtain ⟨g, hg⟩ := List.exists_mem_of_ne_nil _ (ih hbguard hbok)
          exact List.append_ne_nil_of_right_ne_nil _ (List.ne_nil_of_mem (hbsub hg))

/-! ## Texts without end -/

/-- The annotation is one of a marked guard whose message has no end. -/
def EndlessMessage (c : LinkContext σ) (a : Annotation) : Prop :=
  ∃ d marking, c.registry.definition c.config a.type = .ok (some d) ∧
    d.marking = some marking ∧ message? c.registry marking a = none

/-- The annotation is one of a guard, and `b` is one of the guards on its type. -/
def ComposedOf (c : LinkContext σ) (a b : Annotation) : Prop :=
  c.registry.isGuard a.type = true ∧ b ∈ c.registry.impliedOf a.type

/-- One of the annotations is, or is composed of, a guard whose message has no end. -/
def MeetsEndlessMessage (c : LinkContext σ) (annotations : List Annotation) : Prop :=
  ∃ a ∈ annotations, ∃ b, ReflTransGen (ComposedOf c) a b ∧ EndlessMessage c b

theorem endlessMessage_of_contributeOwn {d : GuardDefinition}
    (hdef : c.registry.definition c.config a.type = .ok (some d))
    (h : (contributeOwn c target path a d).result = .error (.aborted .endlessText)) :
    EndlessMessage c a := by
  rcases contributeOwn_cases c target path a d with
    ⟨hok, -⟩ | ⟨e, herror⟩ | ⟨payload, hpanic, -⟩ | ⟨-, marking, hmarking, hmessage⟩
  · rw [hok] at h; cases h
  · rw [herror] at h; cases h
  · rw [hpanic] at h; cases h
  · exact ⟨d, marking, hdef, hmarking, hmessage⟩

/-- A text without end is the message of a guard that the link has come to. -/
theorem exists_endlessMessage
    (h : (contribute c target depth path a).result = .error (.aborted .endlessText)) :
    ∃ b, ReflTransGen (ComposedOf c) a b ∧ EndlessMessage c b := by
  induction depth generalizing path a with
  | zero => cases h
  | succ depth ih =>
    cases hdef : c.registry.definition c.config a.type with
    | error e =>
      rw [contribute_of_faulty hdef] at h
      cases h
    | ok found =>
      cases found with
      | none =>
        rw [contribute_of_not_guard (Registry.definition_eq_none_iff.mp hdef)] at h
        cases h
      | some d =>
        obtain ⟨hguard, himplied, -⟩ := Registry.definition_eq_some hdef
        rw [contribute_of_definition hdef] at h
        rcases Contribution.bind_eq_error h with hown | ⟨_, -, hrest⟩
        · exact ⟨a, ReflTransGen.refl, endlessMessage_of_contributeOwn hdef hown⟩
        · obtain ⟨b, hb, hresult⟩ := Contribution.forM_eq_error hrest
          rw [himplied] at hb
          obtain ⟨e, hreach, hmessage⟩ := ih hresult
          exact ⟨e, ReflTransGen.head ⟨hguard, hb⟩ hreach, hmessage⟩

end Link

end AnnotationGuards
