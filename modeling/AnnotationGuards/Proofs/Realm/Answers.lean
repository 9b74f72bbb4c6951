import AnnotationGuards.Proofs.Chain.Slots
import AnnotationGuards.Proofs.Realm.Chains

/-! # What is answered at a slot

    A scan leaves out the members that no annotation guards, and the slots of such a
    member are never linked. They answer as if they were: a link of annotations
    that call for no guard comes to an empty chain. So the answers at a slot are
    those of a link in any case, and of the slot's own annotations only those that
    call for a guard have a part in it.

    * `Realm.AnswersWith`, `Realm.Coherent.answersWith`: the answers at a slot are those
      of a link.
    * `Realm.calls_of_isAt`: the handler code that runs for them. -/

namespace AnnotationGuards

variable {σ : Type} {r : Registry σ} {c : LinkContext σ} {t : TypeId} {m : Member} {place : Slot}
  {own : List Annotation}

/-- What is put down for a slot of a member, if the scan puts down the member. -/
theorem Registry.HasSlot.exists_slot? (h : r.HasSlot t m place own) :
    ∃ guards, (MemberGuards.ofMember t (r.signature m) m).slot? place = some guards ∧
      guards.annotations = own := by
  have hslot := MemberGuards.slot?_ofMember t (r.signature m) m place
  rw [h.annotations] at hslot
  exact Option.map_eq_some_iff.mp hslot

/-- No annotation at a slot of a member that is left out calls for a guard. -/
theorem Registry.HasSlot.filter_eq_nil (h : r.HasSlot t m place own)
    (hguarded : r.isGuarded m = false) : own.filter r.isGuardLike = [] := by
  rw [List.filter_eq_nil_iff]
  intro a ha hlike
  have hcarries := Member.mem_allAnnotations_iff.mp (Member.mem_allAnnotations h.annotations ha)
  rw [Registry.isGuarded_iff.mpr ⟨a, hcarries, hlike⟩] at hguarded
  cases hguarded

/-- What is found at a slot: what is declared there, unless the scan has left out the
    member. -/
theorem LinkContext.exists_locate_eq (hslot : c.registry.HasSlot t m place own) :
    ∃ guards : SlotGuards,
      guards.IsAt t (c.registry.signature m) m place ∧ guards.annotations = own ∧
      c.locate ⟨t, c.registry.signature m, place⟩ =
        .ok (if c.registry.isGuarded m then some guards else none) := by
  obtain ⟨guards, hguards, hown⟩ := hslot.exists_slot?
  refine ⟨guards, MemberGuards.isAt_of_slot? hguards, hown, ?_⟩
  rw [← hguards]
  exact hslot.locate_eq

/-! ## Reports and checks -/

/-- At the address the realm reports and checks what the link of these guards comes to
    in a context. -/
structure Realm.AnswersWith (realm : Realm σ) (c : LinkContext σ) (address : SlotAddress)
    (guards : SlotGuards) : Prop where
  status_eq : (realm.slotStatus address).outcome =
    (Link.outcome c guards).map fun state => .ok state.status
  check_eq : ∀ v, (realm.check address v).outcome =
    (Link.outcome c guards).bind fun state => (state.check v).1.mapError .panicked
  linksTo : ∀ chain, chain ≠ [] → Link.outcome c guards = .ok (.linked chain) →
    realm.LinksTo address guards chain

/-- The link may come to the same in another context. -/
theorem Realm.AnswersWith.congr {realm : Realm σ} {c' : LinkContext σ} {address : SlotAddress}
    {guards : SlotGuards} (h : realm.AnswersWith c' address guards)
    (houtcome : Link.outcome c' guards = Link.outcome c guards) :
    realm.AnswersWith c address guards where
  status_eq := houtcome ▸ h.status_eq
  check_eq := houtcome ▸ h.check_eq
  linksTo := houtcome ▸ h.linksTo

/-- **Answers at a slot** are those of the link of what is declared there, whether the
    scan has put down the member or left it out. -/
theorem Realm.Coherent.answersWith {realm : Realm σ} (h : realm.Coherent c)
    (hslot : c.registry.HasSlot t m place own) {guards : SlotGuards}
    (hguards : guards.IsAt t (c.registry.signature m) m place) :
    realm.AnswersWith c ⟨t, c.registry.signature m, place⟩ guards := by
  obtain ⟨guards', hguards', hown, hlocate⟩ := LinkContext.exists_locate_eq hslot
  obtain rfl := hguards.unique hguards'
  cases hguarded : c.registry.isGuarded m with
  | true =>
    rw [hguarded] at hlocate
    refine ⟨?_, fun v => ?_, fun chain _ houtcome => (linksTo_iff h).mpr ⟨hlocate, houtcome⟩⟩
    · rw [(slotStatus_spec h _).1]
      exact LinkContext.status_of_locate hlocate
    · rw [(check_spec h _ v).1]
      exact LinkContext.checked_of_locate hlocate v
  | false =>
    rw [hguarded] at hlocate
    subst hown
    have hlinked := (Link.outcome_of_filter_eq_nil (hslot.filter_eq_nil hguarded)).2
    refine ⟨?_, fun v => ?_, fun chain hne houtcome => ?_⟩
    · rw [(slotStatus_spec h _).1, hlinked]
      unfold LinkContext.status
      rw [hlocate]
      rfl
    · rw [(check_spec h _ v).1, hlinked]
      unfold LinkContext.checked
      rw [hlocate]
      rfl
    · rw [hlinked] at houtcome
      cases houtcome
      exact absurd rfl hne

/-! ## The handler code that runs -/

namespace Realm

variable {realm : Realm σ} {guards : SlotGuards}

/-- The state of a slot runs the code of the link, if the slot has not been linked
    before. -/
theorem slotState_calls_eq (h : realm.Coherent c) (address : SlotAddress) (guards : SlotGuards) :
    (realm.slotState address guards).calls =
      if Entries.contains realm.slots address then [] else (Link.contributeAll c guards).calls := by
  unfold slotState Entries.contains
  cases hget : Entries.get? realm.slots address with
  | some state => rfl
  | none =>
    obtain ⟨progress, hlink, -, hcalls⟩ := Link.linkSlot_eq h.definitions h.instantiators guards
    rw [h.context, hlink, ← hcalls]
    cases Link.outcome c guards <;> rfl

/-- **The handler code that runs** for a report on a slot is that of its link, if the
    slot has not been linked before. A check runs its chain after that. -/
theorem calls_of_isAt (h : realm.Coherent c) (hslot : c.registry.HasSlot t m place own)
    (hguards : guards.IsAt t (c.registry.signature m) m place) :
    (realm.slotStatus ⟨t, c.registry.signature m, place⟩).calls =
      (if Entries.contains realm.slots ⟨t, c.registry.signature m, place⟩ then []
        else (Link.contributeAll c guards).calls) ∧
    ∀ v state, Link.outcome c guards = .ok state →
      (realm.check ⟨t, c.registry.signature m, place⟩ v).calls =
        (realm.slotStatus ⟨t, c.registry.signature m, place⟩).calls ++ (state.check v).2 := by
  obtain ⟨guards', hguards', hown, hlocate⟩ := LinkContext.exists_locate_eq hslot
  obtain rfl := hguards.unique hguards'
  obtain ⟨realm', heq, h'⟩ := locate_spec h ⟨t, c.registry.signature m, place⟩
  have hkept : realm'.slots = realm.slots := by
    have hslots : (realm.locate ⟨t, c.registry.signature m, place⟩).2.slots = realm.slots := rfl
    rw [heq] at hslots
    exact hslots
  unfold slotStatus check
  rw [heq, hlocate]
  cases hguarded : c.registry.isGuarded m with
  | true =>
    refine ⟨?_, ?_⟩
    · rw [← hkept]
      exact slotState_calls_eq h' _ guards'
    · intro v state houtcome
      have hstate := (slotState_spec h' (hlocate.trans (by rw [hguarded]; rfl))).1
      rw [houtcome] at hstate
      simp only [if_true, hstate]
  | false =>
    -- Nothing is linked, and the link would run no code.
    subst hown
    obtain ⟨hpure, hlinked⟩ := Link.outcome_of_filter_eq_nil (hslot.filter_eq_nil hguarded)
    refine ⟨?_, ?_⟩
    · rw [hpure]
      exact (ite_self _).symm
    · intro v state houtcome
      rw [hlinked] at houtcome
      cases houtcome
      rfl

end Realm

end AnnotationGuards
