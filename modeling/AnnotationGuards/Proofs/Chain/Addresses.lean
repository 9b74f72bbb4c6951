import AnnotationGuards.Proofs.Chain.Scan

/-! # Addresses

    Whether a slot can be addressed follows from the declaration of the class
    alone: not from the guards that apply there, nor from what has been asked
    before.

    * `Registry.Unaddressable`: why there is no slot at an address, with the text
      that says so.
    * `Registry.unaddressable_or_hasSlot`: there is a reason, or there is a slot.
    * `Registry.locate_eq_error_iff`: what is answered is the reason.
    * `Registry.hasSlot_of_locate`: guards are found only where there is a slot. -/

namespace AnnotationGuards

variable {σ : Type} {r : Registry σ} {declaring : TypeId} {signature : String} {place : Slot}

namespace Registry

/-- Why there is no slot at an address. -/
inductive Unaddressable (r : Registry σ) (declaring : TypeId) (signature : String) (place : Slot) :
    String → Prop
  | notAClass (h : r.class? declaring = none) :
    Unaddressable r declaring signature place (r.qualifiedName declaring ++ " is not a declared class")
  | noMember {d : ClassDef σ} (hclass : r.class? declaring = some d)
    (h : (d.members.map r.signature).count signature = 0) :
    Unaddressable r declaring signature place
      (r.qualifiedName declaring ++ "." ++ signature ++ ": " ++ "no such member")
  | severalMembers {d : ClassDef σ} (hclass : r.class? declaring = some d)
    (h : 2 ≤ (d.members.map r.signature).count signature) :
    Unaddressable r declaring signature place
      (r.qualifiedName declaring ++ "." ++ signature ++ ": " ++ "signature names more than one member")
  /-- The member has no such parameter, or returns nothing. -/
  | noSlot {d : ClassDef σ} {m : Member} (hclass : r.class? declaring = some d)
    (hm : m ∈ d.members) (hsignature : r.signature m = signature)
    (hunique : (d.members.map r.signature).count signature = 1)
    (h : m.annotationsAt? place = none) :
    Unaddressable r declaring signature place
      (r.qualifiedName declaring ++ "." ++ signature ++ ": " ++ ("no slot " ++ place.text))

/-- What is known under a signature of which there are several members. -/
theorem entryAmong_of_two_le {members : List Member} (h : 2 ≤ members.length) :
    r.entryAmong declaring members = some .ambiguous := by
  match members with
  | [] => simp at h
  | [_] => simp at h
  | _ :: _ :: _ => rfl

/-- What is found in a class, by what the scan has put down under the signature. -/
theorem locate_of_class {d : ClassDef σ} (hclass : r.class? declaring = some d)
    (signature : String) (place : Slot) :
    r.locate declaring signature place =
      (ScannedClass.mk declaring (r.enterAll declaring d.members)).slot r signature place ∧
    Entries.get? (r.enterAll declaring d.members) signature =
      r.entryAmong declaring (r.membersWith d.members signature) := by
  refine ⟨?_, get?_enterAll r declaring d.members signature⟩
  unfold locate scan
  rw [hclass]
  rfl

/-- There is a reason for which the address leads to no slot, or there is a slot. -/
theorem unaddressable_or_hasSlot (r : Registry σ) (declaring : TypeId) (signature : String)
    (place : Slot) :
    (∃ text, r.Unaddressable declaring signature place text) ∨
    ∃ m own, r.signature m = signature ∧ r.HasSlot declaring m place own := by
  cases hclass : r.class? declaring with
  | none => exact Or.inl ⟨_, .notAClass hclass⟩
  | some d =>
    have hlength := r.length_membersWith d.members signature
    -- No member, one, or several have the signature.
    rcases hwith : r.membersWith d.members signature with _ | ⟨m, _ | ⟨other, rest⟩⟩
    · rw [hwith] at hlength
      exact Or.inl ⟨_, .noMember hclass hlength.symm⟩
    · rw [hwith] at hlength
      have hmem : m ∈ r.membersWith d.members signature := by simp [hwith]
      obtain ⟨hm, hsignature⟩ : m ∈ d.members ∧ r.signature m = signature := by
        simpa [membersWith] using hmem
      cases hplace : m.annotationsAt? place with
      | none => exact Or.inl ⟨_, .noSlot hclass hm hsignature hlength.symm hplace⟩
      | some own =>
        refine Or.inr ⟨m, own, hsignature, ⟨d, hclass, hm, ?_⟩, hplace⟩
        rw [hsignature]
        exact hlength.symm
    · rw [hwith] at hlength
      exact Or.inl ⟨_, .severalMembers hclass (by simp only [List.length_cons] at hlength; omega)⟩

/-- Where there is no slot, the reason is answered. -/
theorem Unaddressable.locate_eq {text : String}
    (h : r.Unaddressable declaring signature place text) :
    r.locate declaring signature place = .error (.internal text) := by
  cases h with
  | notAClass hclass =>
    unfold locate scan
    rw [hclass]
    rfl
  | noMember hclass hnone =>
    obtain ⟨hlocate, hentry⟩ := locate_of_class hclass signature place
    have hwith : r.membersWith _ signature = [] :=
      List.length_eq_zero_iff.mp ((r.length_membersWith _ signature).trans hnone)
    rw [hwith] at hentry
    rw [hlocate]
    unfold ScannedClass.slot
    dsimp only
    rw [hentry]
    rfl
  | severalMembers hclass hseveral =>
    obtain ⟨hlocate, hentry⟩ := locate_of_class hclass signature place
    rw [entryAmong_of_two_le ((r.length_membersWith _ signature).symm ▸ hseveral)] at hentry
    rw [hlocate]
    unfold ScannedClass.slot
    dsimp only
    rw [hentry]
    rfl
  | @noSlot d m hclass hm hsignature hunique hplace =>
    obtain ⟨hlocate, hentry⟩ := locate_of_class hclass signature place
    subst hsignature
    rw [membersWith_eq_singleton hm hunique] at hentry
    have hshape : (Shape.ofMember m).has place = false := by
      rw [Shape.has_ofMember, hplace]
      rfl
    have hslot : (MemberGuards.ofMember declaring (r.signature m) m).slot? place = none := by
      have hannotations := MemberGuards.slot?_ofMember declaring (r.signature m) m place
      rw [hplace] at hannotations
      exact Option.map_eq_none_iff.mp hannotations
    rw [hlocate]
    unfold ScannedClass.slot
    dsimp only
    rw [hentry]
    -- Put down with its slots or by its shape alone, the member has no such place.
    by_cases hguarded : r.isGuarded m = true
    · simp only [entryAmong, entryOf, hguarded, if_true, hslot]
      rfl
    · simp only [entryAmong, entryOf, hguarded, if_false, hshape, Bool.false_eq_true]
      rfl

/-- **Address errors**: they say why there is no slot, and there are no others. -/
theorem locate_eq_error_iff {e : CheckError} :
    r.locate declaring signature place = .error e ↔
      ∃ text, e = .internal text ∧ r.Unaddressable declaring signature place text := by
  constructor
  · intro h
    rcases r.unaddressable_or_hasSlot declaring signature place with
      ⟨text, htext⟩ | ⟨m, own, rfl, hslot⟩
    · rw [htext.locate_eq] at h
      cases h
      exact ⟨text, rfl, htext⟩
    · rw [hslot.locate_eq] at h
      cases h
  · rintro ⟨text, rfl, htext⟩
    exact htext.locate_eq

/-- The guards that are found are those of a slot, under the address that was asked
    for. -/
theorem hasSlot_of_locate {guards : SlotGuards}
    (h : r.locate declaring signature place = .ok (some guards)) :
    ∃ m, r.signature m = signature ∧ r.HasSlot declaring m place guards.annotations ∧
      r.isGuarded m = true ∧
      (MemberGuards.ofMember declaring signature m).slot? place = some guards := by
  rcases r.unaddressable_or_hasSlot declaring signature place with
    ⟨text, htext⟩ | ⟨m, own, rfl, hslot⟩
  · rw [htext.locate_eq] at h
    cases h
  · rw [hslot.locate_eq] at h
    have hfound := Except.ok.inj h
    split at hfound
    · next hguarded =>
      have hannotations := MemberGuards.slot?_ofMember declaring (r.signature m) m place
      rw [hfound, hslot.annotations] at hannotations
      cases hannotations
      exact ⟨m, rfl, hslot, hguarded, hfound⟩
    · cases hfound

end Registry

/-- The slots of a member are targets of their own places. -/
theorem MemberGuards.target_of_slot? {m : Member} {guards : SlotGuards}
    (h : (MemberGuards.ofMember declaring signature m).slot? place = some guards) :
    guards.target.declaring = declaring ∧ guards.target.member = signature ∧
      guards.target.slot = place := by
  cases place with
  | param i =>
    simp only [slot?, ofMember, List.getElem?_mapIdx] at h
    obtain ⟨p, -, rfl⟩ := Option.map_eq_some_iff.mp h
    refine ⟨rfl, rfl, ?_⟩
    -- An index of a call site is among those that 16 bits hold.
    have hlt : i.toNat < 65536 := i.toNat_lt
    have hmin : min i.toNat 65535 = i.toNat := by omega
    simp [paramSlot, hmin]
  | returned =>
    simp only [slot?, ofMember] at h
    split at h
    · cases h
      exact ⟨rfl, rfl, rfl⟩
    · cases h

end AnnotationGuards
