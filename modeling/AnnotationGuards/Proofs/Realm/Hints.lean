import AnnotationGuards.Proofs.Realm.Steps
import AnnotationGuards.Proofs.Registry.Hints
import AnnotationGuards.Realm.Interleaving

/-! # Ordering hints are ignored

    Two realms with registries that differ in nothing but the ordering hints on guard
    markers cannot be told apart by calls, except by asking for definitions: these show
    the hints, and nothing else differs in them.

    * `RealmAnswer.withoutHints`: an answer without the hints that it shows.
    * `Registry.scan_withoutHints`, `LinkContext.locate_eq`: both realms find the same slots.
    * `Realm.Alike`: the relation between two runs. The same slots are linked in both.
    * `Realm.Alike.perform`: every call keeps it, and looks the same on both realms.
    * `Realm.hints_ignored`: so whole runs look the same. -/

namespace AnnotationGuards

variable {σ : Type} {r r' : Registry σ} {config : GuardConfig}

/-! ## What is seen of the hints -/

/-- The answer without ordering hints. Only definitions show any. -/
def RealmAnswer.withoutHints : RealmAnswer → RealmAnswer
  | .definition result => .definition result.withoutHints
  | .verdict guard => .verdict guard
  | .registered count => .registered count
  | .checked result => .checked result
  | .status result => .status result

/-- What is seen of a call, without ordering hints. -/
def CallRecord.withoutHints (record : CallRecord) : CallRecord :=
  { record with outcome := record.outcome.map RealmAnswer.withoutHints }

/-! ## Finding slots -/

namespace Registry

variable (r)

/-- Members are put down as they are whatever the hints. -/
theorem enter_withoutHints : r.withoutHints.enter = r.enter := by
  have hlike : r.withoutHints.isGuardLike = r.isGuardLike := by
    rw [← isGuardLike_skeleton, skeleton_withoutHints, isGuardLike_skeleton]
  have hguarded : r.withoutHints.isGuarded = r.isGuarded := by
    funext m
    unfold isGuarded
    rw [hlike]
  have hentry : r.withoutHints.entryOf = r.entryOf := by
    funext declaring m
    simp only [entryOf, hguarded, signature_mapContents]
  funext declaring members m
  simp only [enter, signature_mapContents, hentry]

/-- So is a whole class. -/
theorem scan_withoutHints : r.withoutHints.scan = r.scan := by
  funext t
  simp only [scan, enterAll, class?_mapContents, Option.map_id_fun, id, enter_withoutHints,
    qualifiedName_mapContents]

theorem locate_withoutHints : r.withoutHints.locate = r.locate := by
  have hslot : ∀ (scanned : ScannedClass) (signature : String) (place : Slot),
      scanned.slot r.withoutHints signature place = scanned.slot r signature place := by
    intro scanned signature place
    simp only [ScannedClass.slot, ScannedClass.unaddressable, qualifiedName_mapContents]
  funext declaring signature place
  simp only [locate, scan_withoutHints, hslot]

end Registry

/-! ## Answers -/

namespace LinkContext

/-- The same slots are found with either registry. -/
theorem locate_eq (h : r'.withoutHints = r.withoutHints) (address : SlotAddress) :
    (⟨r', config⟩ : LinkContext σ).locate address =
      (⟨r, config⟩ : LinkContext σ).locate address := by
  unfold locate
  dsimp only
  rw [← r'.locate_withoutHints, h, r.locate_withoutHints]

/-- A call answers the same with either registry, unless it asks for a definition. -/
theorem answer_eq (h : r'.withoutHints = r.withoutHints) {call : RealmCall}
    (hcall : ∀ t, call ≠ .definitionFor t) :
    (⟨r', config⟩ : LinkContext σ).answer call =
      (⟨r, config⟩ : LinkContext σ).answer call := by
  have hguards : r.SameGuards r' := Registry.sameGuards_of_withoutHints_eq h
  cases call with
  | isGuard t => simp only [answer, hguards.classify_eq]
  | definitionFor t => exact absurd rfl (hcall t)
  | register t =>
    have hscan : r'.scan = r.scan := by
      rw [← r'.scan_withoutHints, h, r.scan_withoutHints]
    simp only [answer, hscan]
  | check address v => simp only [answer, checked, locate_eq h, hguards.outcome_eq]
  | slotStatus address => simp only [answer, status, locate_eq h, hguards.outcome_eq]

/-- And what it answers differs in hints alone if it does. -/
theorem withoutHints_answer_eq (h : r'.withoutHints = r.withoutHints) (call : RealmCall) :
    ((⟨r', config⟩ : LinkContext σ).answer call).map RealmAnswer.withoutHints =
      ((⟨r, config⟩ : LinkContext σ).answer call).map RealmAnswer.withoutHints := by
  by_cases hcall : ∃ t, call = .definitionFor t
  · obtain ⟨t, rfl⟩ := hcall
    have hdefinition := (Registry.sameGuards_of_withoutHints_eq h).definition_eq config t
    exact congrArg (fun result => Except.ok (RealmAnswer.definition result)) hdefinition
  · rw [answer_eq h fun t ht => hcall ⟨t, ht⟩]

end LinkContext

/-! ## Two runs -/

namespace Realm

variable {realm realm' : Realm σ}

/-- Realms of two registries that differ in hints alone, in which the same slots have been
    linked, and come to the same. -/
structure Alike (r r' : Registry σ) (config : GuardConfig) (realm realm' : Realm σ) : Prop where
  registries : r'.withoutHints = r.withoutHints
  coherent : realm.Coherent ⟨r, config⟩
  coherent' : realm'.Coherent ⟨r', config⟩
  slots_eq : ∀ address, Entries.get? realm'.slots address = Entries.get? realm.slots address

theorem alike_fresh (h : r'.withoutHints = r.withoutHints) (config : GuardConfig)
    (scope scope' : ScopeId) :
    Alike r r' config (fresh scope r config) (fresh scope' r' config) where
  registries := h
  coherent := coherent_fresh scope r config
  coherent' := coherent_fresh scope' r' config
  slots_eq := fun _ => rfl

/-- A call runs the same handler code on both realms, and leaves the same slots linked. -/
theorem Alike.calls_eq (h : Alike r r' config realm realm') (call : RealmCall) :
    (realm'.perform call).calls = (realm.perform call).calls ∧
      ∀ address, Entries.get? (realm'.perform call).realm.slots address =
        Entries.get? (realm.perform call).realm.slots address := by
  cases hcall : call.address? with
  | none =>
    obtain ⟨hcalls, hslots⟩ := @perform_of_address?_eq_none _ realm _ hcall
    obtain ⟨hcalls', hslots'⟩ := @perform_of_address?_eq_none _ realm' _ hcall
    rw [hcalls, hcalls', hslots, hslots']
    exact ⟨rfl, h.slots_eq⟩
  | some address =>
    have hlocate : (⟨r', config⟩ : LinkContext σ).locate address =
        (⟨r, config⟩ : LinkContext σ).locate address := LinkContext.locate_eq h.registries address
    by_cases hfound : ∃ guards, (⟨r, config⟩ : LinkContext σ).locate address = .ok (some guards)
    · obtain ⟨guards, hguards⟩ := hfound
      have hsame : r.SameGuards r' := Registry.sameGuards_of_withoutHints_eq h.registries
      obtain ⟨hcalls, hslots⟩ := perform_of_located h.coherent hcall hguards
      obtain ⟨hcalls', hslots'⟩ := perform_of_located h.coherent' hcall (hlocate.trans hguards)
      -- Whether the slot is linked for this call is the same, and so is what its link does.
      have hlinked : Entries.contains realm'.slots address = Entries.contains realm.slots address :=
        congrArg Option.isSome (h.slots_eq address)
      rw [hsame.outcome_eq] at hcalls' hslots'
      refine ⟨?_, fun other => ?_⟩
      · rw [hcalls, hcalls', hlinked, hsame.contributeAll_eq]
      · rw [hslots, hslots', h.slots_eq]
    · have hnone : ∀ guards, (⟨r, config⟩ : LinkContext σ).locate address ≠ .ok (some guards) :=
        fun guards hguards => hfound ⟨guards, hguards⟩
      obtain ⟨hcalls, hslots⟩ := perform_of_unlocated h.coherent hcall hnone
      obtain ⟨hcalls', hslots'⟩ := perform_of_unlocated h.coherent' hcall
        fun guards hguards => hnone guards (hlocate.symm.trans hguards)
      rw [hcalls, hcalls', hslots, hslots']
      exact ⟨rfl, h.slots_eq⟩

/-- **One call** keeps the relation. -/
theorem Alike.perform (h : Alike r r' config realm realm') (call : RealmCall) :
    Alike r r' config (realm.perform call).realm (realm'.perform call).realm where
  registries := h.registries
  coherent := (perform_spec h.coherent call).2
  coherent' := (perform_spec h.coherent' call).2
  slots_eq := (h.calls_eq call).2

/-- It looks the same on both, but for the hints. -/
theorem Alike.withoutHints_record_eq (h : Alike r r' config realm realm') (call : RealmCall) :
    (realm'.perform call).record.withoutHints = (realm.perform call).record.withoutHints := by
  unfold CallRecord.withoutHints Reply.record
  dsimp only
  rw [(h.calls_eq call).1, (perform_spec h.coherent call).1, (perform_spec h.coherent' call).1,
    LinkContext.withoutHints_answer_eq h.registries]

theorem Alike.record_eq (h : Alike r r' config realm realm') {call : RealmCall}
    (hcall : ∀ t, call ≠ .definitionFor t) :
    (realm'.perform call).record = (realm.perform call).record := by
  unfold Reply.record
  rw [(h.calls_eq call).1, (perform_spec h.coherent call).1, (perform_spec h.coherent' call).1,
    LinkContext.answer_eq h.registries hcall]

/-- **Whole runs** look the same on both. The induction goes along the calls, and the
    relation holds before each of them. -/
theorem Alike.records_eq (h : Alike r r' config realm realm') (calls : List RealmCall) :
    (realm'.records calls).map CallRecord.withoutHints =
        (realm.records calls).map CallRecord.withoutHints ∧
      ∀ (i : Nat) (call : RealmCall), calls[i]? = some call → (∀ t, call ≠ .definitionFor t) →
        (realm'.records calls)[i]? = (realm.records calls)[i]? := by
  induction calls generalizing realm realm' with
  | nil => exact ⟨rfl, fun _ _ _ _ => rfl⟩
  | cons first rest ih =>
    obtain ⟨hrest, heach⟩ := ih (h.perform first)
    refine ⟨?_, ?_⟩
    · exact congrArg₂ List.cons (h.withoutHints_record_eq first) hrest
    · intro i call hcall hother
      cases i with
      | zero =>
        obtain rfl : first = call := Option.some.inj hcall
        exact congrArg some (h.record_eq hother)
      | succ i => exact heach i call hcall hother

/-- **Ordering hints are ignored.** Of two registries that differ in nothing but the hints
    on guard markers, fresh realms with the same configuration show the same of any run
    of calls, handler code included. Definitions may differ in the hints, and no other
    answer differs at all. -/
theorem hints_ignored (h : r'.withoutHints = r.withoutHints) (config : GuardConfig)
    (scope scope' : ScopeId) (calls : List RealmCall) :
    ((fresh scope' r' config).records calls).map CallRecord.withoutHints =
        ((fresh scope r config).records calls).map CallRecord.withoutHints ∧
      ∀ (i : Nat) (call : RealmCall), calls[i]? = some call → (∀ t, call ≠ .definitionFor t) →
        ((fresh scope' r' config).records calls)[i]? =
          ((fresh scope r config).records calls)[i]? :=
  (alike_fresh h config scope scope').records_eq calls

end Realm

/-! ## The small program with hints on its marker -/

namespace Sample

/-- The marker of the first guard, with hints written among the other attributes. -/
def rankedMarker : Annotation where
  type := .guardMarker
  attributes := [("order", .int 7), ("handler", .type presentHandler),
    ("relations", .array [.type required])]

def rankedRegistry : Registry Unit :=
  registry.setKind present (.annotationType { metas := [rankedMarker] })

/-- The rank that the definition of the first guard shows. -/
def shownOrder? (realm : Realm Unit) : Option Int64 :=
  match (realm.definitionFor present).1 with
  | .ok (some d) => d.marking.map Marking.order
  | _ => none

/-- A run that asks for the definition and has a value checked. -/
def rankedCalls : List RealmCall := [.definitionFor present, .check recipient .null]

end Sample

namespace Realm

/-- The definition shows another rank, and the check of null comes to the same. -/
theorem hints_ignored_ranked :
    Sample.shownOrder? (fresh ⟨0⟩ Sample.rankedRegistry {}) = some 7 ∧
      Sample.shownOrder? (fresh ⟨0⟩ Sample.registry {}) = some 0 ∧
      ((fresh ⟨0⟩ Sample.rankedRegistry {}).records Sample.rankedCalls).map
          CallRecord.withoutHints =
        ((fresh ⟨0⟩ Sample.registry {}).records Sample.rankedCalls).map CallRecord.withoutHints ∧
      ((fresh ⟨0⟩ Sample.rankedRegistry {}).records Sample.rankedCalls)[1]? =
        ((fresh ⟨0⟩ Sample.registry {}).records Sample.rankedCalls)[1]? := by
  have hsame : Sample.rankedRegistry.withoutHints = Sample.registry.withoutHints := rfl
  obtain ⟨hrecords, heach⟩ := hints_ignored hsame {} ⟨0⟩ ⟨0⟩ Sample.rankedCalls
  refine ⟨rfl, rfl, hrecords, heach 1 (.check Sample.recipient .null) rfl ?_⟩
  intro t ht
  cases ht

end Realm

end AnnotationGuards
