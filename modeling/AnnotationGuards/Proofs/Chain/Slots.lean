import AnnotationGuards.Proofs.Chain.Addresses

/-! # What a slot is declared as

    The target of a slot is read off the declaration of its member: the type and
    the name at its place, and whether an annotation there keeps its values from
    being shown.

    * `Member.HasPlace`: which places a member has.
    * `SlotGuards.IsAt`: the slot is the one at a place of a member.
    * `Registry.locate_cases`: what is found in a class, by signature and place. -/

namespace AnnotationGuards

variable {σ : Type} {r : Registry σ} {declaring : TypeId} {signature : String} {place : Slot}
  {m : Member}

namespace Member

/-- A member has a place for each of its parameters, and one for the returned value
    if it is a method that returns anything. -/
def HasPlace (m : Member) : Slot → Prop
  | .param i => i.toNat < m.params.length
  | .returned => m.kind = .method ∧ m.returnType.raw ≠ .void

/-- The type that is declared at a place; nothing if there is no such place. -/
def typeAt? (m : Member) : Slot → Option GenericType
  | .param i => (m.params[i.toNat]?).map Param.type
  | .returned => if m.returnsValue then some m.returnType else none

/-- The name of the parameter at a place. -/
def nameAt? (m : Member) : Slot → Option String
  | .param i => (m.params[i.toNat]?).map Param.name
  | .returned => none

/-- The annotation is on the member or on one of its parameters. -/
def Carries (m : Member) (a : Annotation) : Prop :=
  a ∈ m.annotations ∨ ∃ p ∈ m.params, a ∈ p.annotations

theorem returnsValue_iff : m.returnsValue = true ↔ m.HasPlace .returned := by
  simp [returnsValue, HasPlace]

theorem isSome_annotationsAt?_iff : (m.annotationsAt? place).isSome = true ↔ m.HasPlace place := by
  cases place with
  | param i => simp [annotationsAt?, HasPlace]
  | returned =>
    rw [← returnsValue_iff]
    cases h : m.returnsValue <;> simp [annotationsAt?, h]

instance (m : Member) (place : Slot) : Decidable (m.HasPlace place) :=
  decidable_of_iff _ isSome_annotationsAt?_iff

theorem annotationsAt?_eq_none_iff : m.annotationsAt? place = none ↔ ¬ m.HasPlace place := by
  rw [← isSome_annotationsAt?_iff, Option.not_isSome_iff_eq_none]

theorem mem_allAnnotations_iff {a : Annotation} :
    a ∈ ScannedClass.allAnnotations m ↔ m.Carries a := by
  simp [ScannedClass.allAnnotations, Carries, List.mem_flatMap]

end Member

/-- A member is guarded if it carries an annotation that calls for a guard. -/
theorem Registry.isGuarded_iff :
    r.isGuarded m = true ↔ ∃ a, m.Carries a ∧ r.isGuardLike a = true := by
  simp [Registry.isGuarded, List.any_eq_true, Member.mem_allAnnotations_iff]

theorem MemberGuards.areSensitive_iff {annotations : List Annotation} :
    areSensitive annotations = true ↔ ∃ a ∈ annotations, a.type = .sensitive := by
  simp [areSensitive]

/-! ## Slots and their places -/

/-- The slot is the one at a place of a member, with what is declared there. -/
structure SlotGuards.IsAt (guards : SlotGuards) (declaring : TypeId) (signature : String)
    (m : Member) (place : Slot) : Prop where
  declaring_eq : guards.target.declaring = declaring
  member_eq : guards.target.member = signature
  slot_eq : guards.target.slot = place
  name_eq : guards.target.name = m.nameAt? place
  type_eq : m.typeAt? place = some guards.target.type
  annotations_eq : m.annotationsAt? place = some guards.annotations
  sensitive_iff : guards.target.sensitive = true ↔
    ∃ a ∈ guards.annotations, a.type = .sensitive

/-- What is put down for a place of a member is declared at this place. -/
theorem MemberGuards.isAt_of_slot? {guards : SlotGuards}
    (h : (MemberGuards.ofMember declaring signature m).slot? place = some guards) :
    guards.IsAt declaring signature m place := by
  obtain ⟨hdeclaring, hmember, hslot⟩ := MemberGuards.target_of_slot? h
  have hannotations : m.annotationsAt? place = some guards.annotations := by
    rw [← MemberGuards.slot?_ofMember declaring signature m place, h]
    rfl
  cases place with
  | param i =>
    simp only [slot?, ofMember, List.getElem?_mapIdx] at h
    obtain ⟨p, hp, rfl⟩ := Option.map_eq_some_iff.mp h
    exact ⟨hdeclaring, hmember, hslot, by simp [Member.nameAt?, hp, paramSlot],
      by simp [Member.typeAt?, hp, paramSlot], hannotations, areSensitive_iff⟩
  | returned =>
    simp only [slot?, ofMember] at h
    split at h
    · next hreturns =>
      cases h
      exact ⟨hdeclaring, hmember, hslot, rfl, by simp [Member.typeAt?, hreturns, returnedSlot],
        hannotations, areSensitive_iff⟩
    · cases h

/-- Slots at the same place are the same target, if the declarations agree on its type
    and its name, and on whether values may be shown. -/
theorem SlotGuards.IsAt.target_eq {guards guards' : SlotGuards} {m' : Member}
    (h : guards.IsAt declaring signature m place) (h' : guards'.IsAt declaring signature m' place)
    (htype : m'.typeAt? place = m.typeAt? place) (hname : m'.nameAt? place = m.nameAt? place)
    (hsensitive : (∃ a ∈ guards'.annotations, a.type = .sensitive) ↔
      ∃ a ∈ guards.annotations, a.type = .sensitive) : guards'.target = guards.target := by
  have hshown : guards'.target.sensitive = guards.target.sensitive := by
    rw [Bool.eq_iff_iff, h.sensitive_iff, h'.sensitive_iff]
    exact hsensitive
  have htypes : guards'.target.type = guards.target.type := by
    rw [h.type_eq, h'.type_eq] at htype
    exact Option.some.inj htype
  have hdeclaring := h'.declaring_eq.trans h.declaring_eq.symm
  have hmember := h'.member_eq.trans h.member_eq.symm
  have hslot := h'.slot_eq.trans h.slot_eq.symm
  have hnames := h'.name_eq.trans (hname.trans h.name_eq.symm)
  obtain ⟨⟨_, _, _, _, _, _⟩, _⟩ := guards
  obtain ⟨⟨_, _, _, _, _, _⟩, _⟩ := guards'
  simp only at hshown htypes hdeclaring hmember hslot hnames
  subst hshown htypes hdeclaring hmember hslot hnames
  rfl

/-- There is one slot at a place. -/
theorem SlotGuards.IsAt.unique {guards guards' : SlotGuards}
    (h : guards.IsAt declaring signature m place) (h' : guards'.IsAt declaring signature m place) :
    guards' = guards := by
  have hannotations : guards'.annotations = guards.annotations :=
    Option.some.inj (h'.annotations_eq.symm.trans h.annotations_eq)
  have htarget := h.target_eq h' rfl rfl (by rw [hannotations])
  obtain ⟨target, annotations⟩ := guards
  obtain ⟨target', annotations'⟩ := guards'
  simp only at htarget hannotations
  subst htarget hannotations
  rfl

/-! ## What is found at an address -/

namespace Registry

/-- Where there is a slot, there is a type. -/
theorem HasSlot.size_pos {own : List Annotation} (h : r.HasSlot declaring m place own) :
    0 < r.size := by
  obtain ⟨d, hclass, -, -⟩ := h.declared
  obtain ⟨d', hfound, -⟩ := Option.bind_eq_some_iff.mp hclass
  exact List.length_pos_of_mem (List.mem_of_getElem? hfound)

/-- Where there is a slot, its member is the only one with its signature, and has
    the place. -/
theorem HasSlot.membersWith_eq {own : List Annotation} {d : ClassDef σ}
    (h : r.HasSlot declaring m place own) (hclass : r.class? declaring = some d) :
    r.membersWith d.members (r.signature m) = [m] ∧ m.HasPlace place := by
  obtain ⟨d', hclass', hm, hunique⟩ := h.declared
  rw [hclass] at hclass'
  cases hclass'
  refine ⟨membersWith_eq_singleton hm hunique, ?_⟩
  rw [← Member.isSome_annotationsAt?_iff, h.annotations]
  rfl

/-- Where there is no slot in a class, no member has the signature, several have it,
    or the only one has no such place. -/
theorem Unaddressable.membersWith_cases {text : String} {d : ClassDef σ}
    (h : r.Unaddressable declaring signature place text) (hclass : r.class? declaring = some d) :
    r.membersWith d.members signature = [] ∨ 2 ≤ (r.membersWith d.members signature).length ∨
    ∃ m, r.membersWith d.members signature = [m] ∧ ¬ m.HasPlace place := by
  have hlength := r.length_membersWith d.members signature
  cases h with
  | notAClass hnone =>
    rw [hclass] at hnone
    cases hnone
  | noMember hclass' hnone =>
    rw [hclass] at hclass'
    cases hclass'
    exact Or.inl (List.length_eq_zero_iff.mp (hlength.trans hnone))
  | severalMembers hclass' hseveral =>
    rw [hclass] at hclass'
    cases hclass'
    exact Or.inr (Or.inl (hlength ▸ hseveral))
  | @noSlot _ m hclass' hm hsignature hunique hplace =>
    rw [hclass] at hclass'
    cases hclass'
    subst hsignature
    exact Or.inr (Or.inr ⟨m, membersWith_eq_singleton hm hunique,
      Member.annotationsAt?_eq_none_iff.mp hplace⟩)

/-- Of the members with a signature, none, several, or one without the place: there
    is not one alone that has the place. -/
theorem none_or_several_iff {named : List Member} :
    (named = [] ∨ 2 ≤ named.length ∨ ∃ m, named = [m] ∧ ¬ m.HasPlace place) ↔
      ¬ ∃ m, named = [m] ∧ m.HasPlace place := by
  rcases named with _ | ⟨m, _ | ⟨other, rest⟩⟩ <;> simp

/-- **What is found in a class**, by the members that have the signature: an error if
    there are none, several, or one without the place; nothing if the one is not
    guarded; and otherwise its slot at the place. -/
theorem locate_cases {d : ClassDef σ} (hclass : r.class? declaring = some d) (signature : String)
    (place : Slot) :
    ((r.membersWith d.members signature = [] ∨ 2 ≤ (r.membersWith d.members signature).length ∨
        ∃ m, r.membersWith d.members signature = [m] ∧ ¬ m.HasPlace place) ∧
      ∃ e, r.locate declaring signature place = .error e) ∨
    ∃ m, r.membersWith d.members signature = [m] ∧ m.HasPlace place ∧
      ((r.isGuarded m = false ∧ r.locate declaring signature place = .ok none) ∨
      (r.isGuarded m = true ∧ ∃ guards : SlotGuards,
        r.locate declaring signature place = .ok (some guards) ∧
        guards.IsAt declaring signature m place)) := by
  rcases r.unaddressable_or_hasSlot declaring signature place with
    ⟨text, hnone⟩ | ⟨m, own, rfl, hslot⟩
  · exact Or.inl ⟨hnone.membersWith_cases hclass, _, hnone.locate_eq⟩
  · obtain ⟨hwith, hplace⟩ := hslot.membersWith_eq hclass
    refine Or.inr ⟨m, hwith, hplace, ?_⟩
    cases hguarded : r.isGuarded m with
    | false => exact Or.inl ⟨rfl, hslot.locate_of_not_guarded hguarded⟩
    | true =>
      obtain ⟨guards, hlocate, -⟩ := hslot.locate_of_guarded hguarded
      have hfound := hlocate
      rw [hslot.locate_eq, hguarded, if_pos rfl] at hfound
      exact Or.inr ⟨rfl, guards, hlocate, MemberGuards.isAt_of_slot? (Except.ok.inj hfound)⟩

end Registry

end AnnotationGuards
