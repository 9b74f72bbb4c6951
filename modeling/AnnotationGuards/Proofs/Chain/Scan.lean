import AnnotationGuards.Chain.Scan
import AnnotationGuards.Proofs.Guard.Definition

/-! # Scans and the tables behind them

    A scan asks for verdicts and puts down what it finds. Here it is carried out
    without the table of verdicts, and what it puts down under a signature is
    read off the members that have this signature.

    * `Registry.scan`: the scan of a class, from the registry alone.
    * `ScanTable.guardsFor_eq`: with any tables that agree with the registry, the
      answer is that scan, and the tables still agree.
    * `Registry.get?_enterAll`: what stands under a signature after a scan.
    * `Registry.HasSlot`: a slot that calls can be dispatched to. `HasSlot.locate_eq`
      says what is found there. -/

namespace AnnotationGuards

variable {σ : Type} {r : Registry σ} {declaring t : TypeId} {signature : String}

/-! ## Without tables -/

namespace Registry

/-- Whether an annotation on the member or on one of its parameters calls for a
    guard. -/
def isGuarded (r : Registry σ) (m : Member) : Bool :=
  (ScannedClass.allAnnotations m).any r.isGuardLike

/-- What is put down for a member that is the only one with its signature. -/
def entryOf (r : Registry σ) (declaring : TypeId) (m : Member) : MemberEntry :=
  if r.isGuarded m then .guarded (.ofMember declaring (r.signature m) m)
  else .unguarded (.ofMember m)

/-- Puts down one more member. -/
def enter (r : Registry σ) (declaring : TypeId) (members : Entries String MemberEntry)
    (m : Member) : Entries String MemberEntry :=
  if Entries.contains members (r.signature m) then
    Entries.put members (r.signature m) .ambiguous
  else Entries.put members (r.signature m) (r.entryOf declaring m)

/-- Puts down members one after the other. -/
def enterAll (r : Registry σ) (declaring : TypeId) (members : List Member) :
    Entries String MemberEntry :=
  members.foldl (r.enter declaring) []

/-- The scan of a class. -/
def scan (r : Registry σ) (t : TypeId) : Except CheckError ScannedClass :=
  match r.class? t with
  | none => .error (.internal (r.qualifiedName t ++ " is not a declared class"))
  | some c => .ok ⟨t, r.enterAll t c.members⟩

/-- The members with a signature, in order of declaration. -/
def membersWith (r : Registry σ) (members : List Member) (signature : String) : List Member :=
  members.filter fun m => r.signature m = signature

/-- What is known under a signature that these members have. -/
def entryAmong (r : Registry σ) (declaring : TypeId) : List Member → Option MemberEntry
  | [] => none
  | [m] => some (r.entryOf declaring m)
  | _ => some .ambiguous

end Registry

/-! ## Tables that agree with the registry -/

theorem ScannedClass.record_eq {table : VerdictTable} (h : table.Coherent r) (declaring : TypeId)
    (members : Entries String MemberEntry) (m : Member) :
    ∃ table', ScannedClass.record r declaring members table m =
      (r.enter declaring members m, table') ∧ table'.Coherent r := by
  unfold ScannedClass.record Registry.enter
  by_cases hknown : Entries.contains members (r.signature m) = true
  · refine ⟨table, ?_, h⟩
    simp only [hknown, if_true]
  · obtain ⟨table', heq, h'⟩ := VerdictTable.anyGuardLike_eq h (ScannedClass.allAnnotations m)
    refine ⟨table', ?_, h'⟩
    have hguarded : (ScannedClass.allAnnotations m).any r.isGuardLike = r.isGuarded m := rfl
    rw [hguarded] at heq
    by_cases hm : r.isGuarded m = true
    · simp [hknown, heq, Registry.entryOf, hm]
    · simp [hknown, heq, Registry.entryOf, hm]

theorem ScannedClass.recordAll_eq {table : VerdictTable} (h : table.Coherent r)
    (declaring : TypeId) (entries : Entries String MemberEntry) (members : List Member) :
    ∃ table', ScannedClass.recordAll r declaring entries table members =
      (members.foldl (r.enter declaring) entries, table') ∧ table'.Coherent r := by
  induction members generalizing entries table with
  | nil => exact ⟨table, rfl, h⟩
  | cons m rest ih =>
    obtain ⟨table', heq, h'⟩ := ScannedClass.record_eq h declaring entries m
    unfold ScannedClass.recordAll
    rw [heq]
    exact ih h' (r.enter declaring entries m)

theorem ScannedClass.scan_eq {table : VerdictTable} (h : table.Coherent r) (t : TypeId) :
    ∃ table', ScannedClass.scan r table t = (r.scan t, table') ∧ table'.Coherent r := by
  unfold ScannedClass.scan Registry.scan
  cases r.class? t with
  | none => exact ⟨table, rfl, h⟩
  | some c =>
    obtain ⟨table', heq, h'⟩ := ScannedClass.recordAll_eq h t [] c.members
    refine ⟨table', ?_, h'⟩
    simp only [heq]
    rfl

/-- The scans are those that the registry gives. -/
abbrev ScanTable.Coherent (r : Registry σ) (scans : ScanTable) : Prop :=
  Entries.Agrees scans r.scan

/-- **The tables change no scan.** -/
theorem ScanTable.guardsFor_eq {scans : ScanTable} {verdicts : VerdictTable}
    (hs : scans.Coherent r) (hv : verdicts.Coherent r) (t : TypeId) :
    ∃ scans' verdicts', ScanTable.guardsFor r scans verdicts t =
      (r.scan t, scans', verdicts') ∧ scans'.Coherent r ∧ verdicts'.Coherent r := by
  unfold ScanTable.guardsFor
  cases hget : Entries.get? scans t with
  | some result => exact ⟨scans, verdicts, by rw [hs t result hget], hs, hv⟩
  | none =>
    obtain ⟨verdicts', heq, hv'⟩ := ScannedClass.scan_eq hv t
    simp only [heq]
    exact ⟨_, verdicts', rfl, hs.put t, hv'⟩

/-! ## What stands under a signature -/

namespace Registry

theorem get?_enter (members : Entries String MemberEntry) (m : Member) :
    Entries.get? (r.enter declaring members m) signature =
      if r.signature m = signature then
        match Entries.get? members signature with
        | none => some (r.entryOf declaring m)
        | some _ => some .ambiguous
      else Entries.get? members signature := by
  by_cases hsig : r.signature m = signature
  · subst hsig
    unfold enter Entries.contains
    cases hget : Entries.get? members (r.signature m) <;> simp
  · unfold enter
    by_cases hknown : Entries.contains members (r.signature m) = true
    · simp [hknown, hsig]
    · simp [hknown, hsig]

theorem entryAmong_concat (before : List Member) (m : Member) :
    r.entryAmong declaring (before ++ [m]) =
      match r.entryAmong declaring before with
      | none => some (r.entryOf declaring m)
      | some _ => some .ambiguous := by
  match before with
  | [] => rfl
  | [_] => rfl
  | _ :: _ :: _ => rfl

/-- A scan puts down nothing under a signature that no member has, the member if
    it is the only one that has it, and the ambiguity if there are several. -/
theorem get?_enterAll (r : Registry σ) (declaring : TypeId) (members : List Member)
    (signature : String) :
    Entries.get? (r.enterAll declaring members) signature =
      r.entryAmong declaring (r.membersWith members signature) := by
  -- The invariant of the scan: this holds of the members read so far.
  induction members using List.reverseRecOn with
  | nil => rfl
  | append_singleton before m ih =>
    have hstep : r.enterAll declaring (before ++ [m]) =
        r.enter declaring (r.enterAll declaring before) m := by
      simp [enterAll]
    rw [hstep, get?_enter, ih]
    -- Another member changes nothing under a signature that it does not have.
    by_cases hsig : r.signature m = signature
    · have hwith : r.membersWith (before ++ [m]) signature =
          r.membersWith before signature ++ [m] := by
        simp [membersWith, hsig]
      rw [if_pos hsig, hwith, entryAmong_concat]
    · have hwith : r.membersWith (before ++ [m]) signature = r.membersWith before signature := by
        simp [membersWith, hsig]
      rw [if_neg hsig, hwith]

theorem length_membersWith (r : Registry σ) (members : List Member) (signature : String) :
    (r.membersWith members signature).length = (members.map r.signature).count signature := by
  rw [List.count_eq_countP, List.countP_map, List.countP_eq_length_filter]
  rfl

/-- Of the members with the signature of `m`, there is only `m` itself. -/
theorem membersWith_eq_singleton {members : List Member} {m : Member} (hm : m ∈ members)
    (hunique : (members.map r.signature).count (r.signature m) = 1) :
    r.membersWith members (r.signature m) = [m] := by
  have hlength := r.length_membersWith members (r.signature m)
  rw [hunique] at hlength
  obtain ⟨only, honly⟩ := List.length_eq_one_iff.mp hlength
  have hmem : m ∈ r.membersWith members (r.signature m) := by
    simp [membersWith, hm]
  rw [honly, List.mem_singleton] at hmem
  rw [honly, hmem]

end Registry

/-! ## The slots of a member -/

/-- The annotations that apply to a place of a member: those on the parameter, or
    for the returned value those on the member. Nothing if there is no such place. -/
def Member.annotationsAt? (m : Member) : Slot → Option (List Annotation)
  | .param i => (m.params[i.toNat]?).map Param.annotations
  | .returned => if m.returnsValue then some m.annotations else none

theorem Member.mem_allAnnotations {m : Member} {place : Slot} {own : List Annotation}
    (h : m.annotationsAt? place = some own) {a : Annotation} (ha : a ∈ own) :
    a ∈ ScannedClass.allAnnotations m := by
  unfold ScannedClass.allAnnotations
  cases place with
  | param i =>
    obtain ⟨p, hp, rfl⟩ := Option.map_eq_some_iff.mp h
    exact List.mem_append_right _ (List.mem_flatMap.mpr ⟨p, List.mem_of_getElem? hp, ha⟩)
  | returned =>
    simp only [Member.annotationsAt?] at h
    split at h
    · cases h
      exact List.mem_append_left _ ha
    · cases h

/-- A member has a place exactly if its shape does. -/
theorem Shape.has_ofMember (m : Member) (place : Slot) :
    (Shape.ofMember m).has place = (m.annotationsAt? place).isSome := by
  cases place with
  | param i =>
    by_cases hlt : i.toNat < m.params.length
    · simp [Shape.ofMember, Shape.has, Member.annotationsAt?, hlt]
    · simp [Shape.ofMember, Shape.has, Member.annotationsAt?, hlt]
  | returned => cases h : m.returnsValue <;> simp [Shape.ofMember, Shape.has, Member.annotationsAt?, h]

/-- The slots of a member hold the annotations of their places. -/
theorem MemberGuards.slot?_ofMember (declaring : TypeId) (signature : String) (m : Member)
    (place : Slot) :
    ((MemberGuards.ofMember declaring signature m).slot? place).map SlotGuards.annotations =
      m.annotationsAt? place := by
  cases place with
  | param i =>
    simp only [MemberGuards.slot?, MemberGuards.ofMember, List.getElem?_mapIdx, Option.map_map,
      Member.annotationsAt?]
    rfl
  | returned =>
    cases h : m.returnsValue <;>
      simp [MemberGuards.slot?, MemberGuards.ofMember, Member.annotationsAt?, h,
        MemberGuards.returnedSlot]

namespace Registry

/-- The guards at an address, from the registry alone. -/
def locate (r : Registry σ) (declaring : TypeId) (signature : String) (place : Slot) :
    Except CheckError (Option SlotGuards) :=
  (r.scan declaring).bind fun scanned => scanned.slot r signature place

/-- A class declares the member under a signature of its own, and these are the
    annotations at the place. -/
structure HasSlot (r : Registry σ) (declaring : TypeId) (m : Member) (place : Slot)
    (own : List Annotation) : Prop where
  declared : ∃ d, r.class? declaring = some d ∧ m ∈ d.members ∧
    (d.members.map r.signature).count (r.signature m) = 1
  annotations : m.annotationsAt? place = some own

variable {m : Member} {place : Slot} {own : List Annotation}

/-- What the scan has put down for the member. -/
theorem HasSlot.scan_eq (h : r.HasSlot declaring m place own) :
    ∃ scanned, r.scan declaring = .ok scanned ∧ scanned.declaring = declaring ∧
      Entries.get? scanned.members (r.signature m) = some (r.entryOf declaring m) := by
  obtain ⟨d, hclass, hm, hunique⟩ := h.declared
  refine ⟨⟨declaring, r.enterAll declaring d.members⟩, ?_, rfl, ?_⟩
  · unfold scan
    rw [hclass]
  · show Entries.get? (r.enterAll declaring d.members) (r.signature m) = _
    rw [get?_enterAll, membersWith_eq_singleton hm hunique]
    rfl

/-- What is found at the place: its guards if the member is guarded, and nothing
    otherwise. -/
theorem HasSlot.locate_eq (h : r.HasSlot declaring m place own) :
    r.locate declaring (r.signature m) place =
      .ok (if r.isGuarded m then (MemberGuards.ofMember declaring (r.signature m) m).slot? place
        else none) := by
  obtain ⟨scanned, hscan, -, hentry⟩ := h.scan_eq
  cases hguarded : r.isGuarded m with
  | false =>
    have hplace : (Shape.ofMember m).has place = true := by
      rw [Shape.has_ofMember, h.annotations]
      rfl
    simp [locate, hscan, Except.bind, ScannedClass.slot, hentry, entryOf, hguarded, hplace]
  | true =>
    have hslot := MemberGuards.slot?_ofMember declaring (r.signature m) m place
    rw [h.annotations] at hslot
    obtain ⟨guards, hguards, -⟩ := Option.map_eq_some_iff.mp hslot
    simp [locate, hscan, Except.bind, ScannedClass.slot, hentry, entryOf, hguarded, hguards]

/-- A member without guard annotations has no guards at any of its places. -/
theorem HasSlot.locate_of_not_guarded (h : r.HasSlot declaring m place own)
    (hguarded : r.isGuarded m = false) :
    r.locate declaring (r.signature m) place = .ok none := by
  rw [h.locate_eq, hguarded]
  rfl

/-- A guarded member has guards at each of its places: the annotations there. -/
theorem HasSlot.locate_of_guarded (h : r.HasSlot declaring m place own)
    (hguarded : r.isGuarded m = true) :
    ∃ guards : SlotGuards, r.locate declaring (r.signature m) place = .ok (some guards) ∧
      guards.annotations = own := by
  have hslot := MemberGuards.slot?_ofMember declaring (r.signature m) m place
  rw [h.annotations] at hslot
  obtain ⟨guards, hguards, hannotations⟩ := Option.map_eq_some_iff.mp hslot
  refine ⟨guards, ?_, hannotations⟩
  rw [h.locate_eq, hguarded, if_pos rfl, hguards]

end Registry

end AnnotationGuards
