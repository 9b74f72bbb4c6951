import AnnotationGuards.Proofs.Chain.Slots
import AnnotationGuards.Proofs.Realm.Nesting

/-! # Dispatch

    A class may declare any number of members under one signature, in any order. A
    call is dispatched only if the signature names one member alone, and then to
    the place of that member which it asks for.

    * `Registry.nodup_keys_enterAll`: a scan puts down each signature once.
    * `Registry.exists_guardedSignatures`: which members a scan counts.
    * `Realm.dispatch_exact`: what a realm answers for a signature and a place. -/

namespace AnnotationGuards

variable {σ : Type} {r : Registry σ} {t : TypeId}

/-! ## Signatures of guarded members -/

namespace Registry

theorem nodup_keys_enter {members : Entries String MemberEntry} (h : (Entries.keys members).Nodup)
    (t : TypeId) (m : Member) : (Entries.keys (r.enter t members m)).Nodup := by
  unfold enter
  split
  · exact Entries.nodup_keys_put h _ _
  · exact Entries.nodup_keys_put h _ _

theorem nodup_keys_enterAll (r : Registry σ) (t : TypeId) (members : List Member) :
    (Entries.keys (r.enterAll t members)).Nodup :=
  List.foldlRecOn (motive := fun found => (Entries.keys found).Nodup) _ _ List.nodup_nil
    fun _ hfound m _ => nodup_keys_enter hfound t m

/-- What is known under a signature is a guarded member exactly if the signature is
    held by one member alone, and that one is guarded. -/
theorem exists_entryAmong_eq_guarded_iff {named : List Member} :
    (∃ g, r.entryAmong t named = some (.guarded g)) ↔ ∃ m, named = [m] ∧ r.isGuarded m = true := by
  constructor
  · rintro ⟨g, hg⟩
    match named with
    | [] => cases hg
    | _ :: _ :: _ => cases hg
    | [m] =>
      refine ⟨m, rfl, ?_⟩
      cases hguarded : r.isGuarded m with
      | true => rfl
      | false => simp [entryAmong, entryOf, hguarded] at hg
  · rintro ⟨m, rfl, hguarded⟩
    exact ⟨_, by simp [entryAmong, entryOf, hguarded]; rfl⟩

/-- The entry is that of a guarded member. -/
def isGuardedEntry : MemberEntry → Bool
  | .guarded _ => true
  | _ => false

/-- The members that a scan counts as guarded, by their signatures. -/
theorem exists_guardedSignatures (r : Registry σ) (t : TypeId) (members : List Member) :
    ∃ held : List String, held.Nodup ∧
      (∀ s, s ∈ held ↔ ∃ m, r.membersWith members s = [m] ∧ r.isGuarded m = true) ∧
      (ScannedClass.mk t (r.enterAll t members)).guardedMembers.length = held.length := by
  have hnodup := r.nodup_keys_enterAll t members
  refine ⟨((r.enterAll t members).filter (isGuardedEntry ∘ Prod.snd)).map Prod.fst, ?_, ?_, ?_⟩
  · exact (List.Sublist.map Prod.fst List.filter_sublist).nodup hnodup
  · intro s
    rw [← exists_entryAmong_eq_guarded_iff (r := r) (t := t), ← get?_enterAll]
    constructor
    · intro hs
      obtain ⟨⟨_, entry⟩, hmem, rfl⟩ := List.mem_map.mp hs
      obtain ⟨hentry, hguarded⟩ := List.mem_filter.mp hmem
      cases entry with
      | guarded g => exact ⟨g, Entries.get?_of_mem hnodup hentry⟩
      | unguarded shape => cases hguarded
      | ambiguous => cases hguarded
    · rintro ⟨g, hg⟩
      exact List.mem_map.mpr ⟨_, List.mem_filter.mpr ⟨Entries.mem_of_get? hg, rfl⟩, rfl⟩
  · rw [List.length_map, ← List.countP_eq_length_filter]
    unfold ScannedClass.guardedMembers
    rw [List.length_filterMap_eq_countP]
    refine List.countP_congr fun entry _ => ?_
    rcases entry with ⟨_, _ | _ | _⟩ <;> simp [isGuardedEntry]

end Registry

/-! ## Dispatch in a realm -/

namespace Realm

variable {realm : Realm σ} {d : ClassDef σ}

/-- **Dispatch reaches the right slot or none**, in any realm, for any class. Whatever
    the members of the class and their order, after the scan of the class a
    signature and a place lead

    1. to an error, exactly if no member has the signature, or several have it, or
       the only one does not have the place;
    2. to nothing, exactly if one member alone has the signature, has the place, and
       carries no annotation that calls for a guard;
    3. and otherwise to the slot at this place of that member, with what is declared
       there.

    The count of a registration is that of the signatures which one member alone
    holds, and that one carries an annotation that calls for a guard. -/
theorem dispatch_exact (h : realm.Reached) (hclass : realm.registry.class? t = some d) :
    ∃ scanned, (realm.guardsFor t).1 = .ok scanned ∧
      (∀ s place,
        ((∃ e, scanned.slot realm.registry s place = .error e) ↔
          realm.registry.membersWith d.members s = [] ∨
          2 ≤ (realm.registry.membersWith d.members s).length ∨
          ∃ m, realm.registry.membersWith d.members s = [m] ∧ ¬ m.HasPlace place) ∧
        (scanned.slot realm.registry s place = .ok none ↔
          ∃ m, realm.registry.membersWith d.members s = [m] ∧ m.HasPlace place ∧
            ∀ a, m.Carries a → realm.registry.isGuardLike a = false) ∧
        ((∃ guards, scanned.slot realm.registry s place = .ok (some guards)) ↔
          ∃ m, realm.registry.membersWith d.members s = [m] ∧ m.HasPlace place ∧
            ∃ a, m.Carries a ∧ realm.registry.isGuardLike a = true) ∧
        ∀ guards, scanned.slot realm.registry s place = .ok (some guards) →
          ∃ m, realm.registry.membersWith d.members s = [m] ∧ guards.IsAt t s m place) ∧
      ∃ held : List String, held.Nodup ∧
        (∀ s, s ∈ held ↔ ∃ m, realm.registry.membersWith d.members s = [m] ∧
          ∃ a, m.Carries a ∧ realm.registry.isGuardLike a = true) ∧
        (realm.register t).1 = .ok held.length := by
  have hcoherent := h.coherent
  obtain ⟨_, hscan, -⟩ := guardsFor_spec hcoherent t
  obtain ⟨_, hregister, -⟩ := register_spec hcoherent t
  have hscanned : realm.registry.scan t = .ok ⟨t, realm.registry.enterAll t d.members⟩ := by
    unfold Registry.scan
    rw [hclass]
  refine ⟨⟨t, realm.registry.enterAll t d.members⟩, ?_, ?_, ?_⟩
  · rw [hscan]
    exact hscanned
  · intro s place
    rw [← (Registry.locate_of_class hclass s place).1, Registry.none_or_several_iff]
    rcases Registry.locate_cases hclass s place with
      ⟨hnone, e, he⟩ | ⟨m, hwith, hplace, ⟨hguarded, hfree⟩ | ⟨hguarded, guards, hslot, hat⟩⟩
    · -- No member alone has the signature and the place, so there is no other answer.
      rw [Registry.none_or_several_iff] at hnone
      rw [he]
      refine ⟨iff_of_true ⟨e, rfl⟩ hnone, iff_of_false nofun ?_, iff_of_false nofun ?_, nofun⟩
      · rintro ⟨m, hwith, hplace, -⟩
        exact hnone ⟨m, hwith, hplace⟩
      · rintro ⟨m, hwith, hplace, -⟩
        exact hnone ⟨m, hwith, hplace⟩
    · have hnot : ¬ ∃ a, m.Carries a ∧ realm.registry.isGuardLike a = true := by
        rw [← Registry.isGuarded_iff, hguarded]
        exact Bool.false_ne_true
      rw [hfree]
      refine ⟨iff_of_false nofun (not_not.mpr ⟨m, hwith, hplace⟩), iff_of_true rfl ?_,
        iff_of_false nofun ?_, nofun⟩
      · exact ⟨m, hwith, hplace, fun a ha => Bool.eq_false_iff.mpr fun hlike => hnot ⟨a, ha, hlike⟩⟩
      · rintro ⟨m', hwith', -, hlike⟩
        rw [hwith] at hwith'
        cases hwith'
        exact hnot hlike
    · obtain ⟨a, ha, hlike⟩ := Registry.isGuarded_iff.mp hguarded
      rw [hslot]
      refine ⟨iff_of_false nofun (not_not.mpr ⟨m, hwith, hplace⟩), iff_of_false nofun ?_,
        iff_of_true ⟨guards, rfl⟩ ⟨m, hwith, hplace, a, ha, hlike⟩, ?_⟩
      · rintro ⟨m', hwith', -, hno⟩
        rw [hwith] at hwith'
        cases hwith'
        rw [hno a ha] at hlike
        cases hlike
      · intro guards' hguards'
        cases hguards'
        exact ⟨m, hwith, hat⟩
  · obtain ⟨held, hnodup, hheld, hlength⟩ :=
      realm.registry.exists_guardedSignatures t d.members
    refine ⟨held, hnodup, fun s => ?_, ?_⟩
    · simp only [hheld, Registry.isGuarded_iff]
    · rw [hregister]
      show (realm.registry.scan t).map _ = _
      rw [hscanned, ← hlength]
      rfl

end Realm

/-! ## A class with overloads that share a signature -/

namespace Sample

def receive : Member where
  kind := .method
  name := "receive"
  returnType := .ofRaw .object
  annotations := [{ type := .sensitive }, { type := required }]

def forward : Member where
  kind := .method
  name := "forward"
  params := [{ name := "to", type := .ofRaw .object }]

/-- The small program, with three members under one signature, of which the middle
    one has no guards, and with two members that share theirs with no other. -/
def crowdedRegistry : Registry Unit :=
  registryWith [send, receive, { send with params := [⟨"it", .ofRaw .object, []⟩] }, forward, send]

def crowdedRealm : Realm Unit := Realm.fresh ⟨0⟩ crowdedRegistry {}

end Sample

namespace Realm

/-- Of the overloads none is reached, of the others the one that is guarded, and it
    is the only one that counts. -/
theorem dispatch_exact_sample :
    ∃ scanned, (Sample.crowdedRealm.guardsFor Sample.service).1 = .ok scanned ∧
      (∃ e, scanned.slot Sample.crowdedRegistry "send(lang.Object)" (.param 0) = .error e) ∧
      scanned.slot Sample.crowdedRegistry "forward(lang.Object)" (.param 0) = .ok none ∧
      (∃ guards, scanned.slot Sample.crowdedRegistry "receive()" .returned = .ok (some guards) ∧
        guards.target.sensitive = true) ∧
      (Sample.crowdedRealm.register Sample.service).1 = .ok 1 := by
  have hreached : Sample.crowdedRealm.Reached := ⟨⟨0⟩, Sample.crowdedRegistry, {}, [], rfl⟩
  obtain ⟨scanned, hscan, hslot, held, -, -, -⟩ :=
    dispatch_exact (t := Sample.service) hreached rfl
  refine ⟨scanned, hscan, ?_, ?_, ?_, rfl⟩
  · exact (hslot "send(lang.Object)" (.param 0)).1.mpr (Or.inr (Or.inl (by decide)))
  · refine (hslot "forward(lang.Object)" (.param 0)).2.1.mpr ⟨Sample.forward, rfl, by decide, ?_⟩
    rintro a (ha | ⟨p, hp, ha⟩)
    · cases ha
    · rw [List.mem_singleton.mp hp] at ha
      cases ha
  · obtain ⟨-, -, hguards, hat⟩ := hslot "receive()" .returned
    obtain ⟨guards, hfound⟩ := hguards.mpr ⟨Sample.receive, rfl, by decide,
      { type := Sample.required }, Or.inl (by simp [Sample.receive]), rfl⟩
    obtain ⟨m, hwith, hat⟩ := hat guards hfound
    cases hwith
    refine ⟨guards, hfound, hat.sensitive_iff.mpr ⟨{ type := .sensitive }, ?_, rfl⟩⟩
    rw [← Option.some.inj hat.annotations_eq]
    exact List.mem_cons_self ..

end Realm

end AnnotationGuards
