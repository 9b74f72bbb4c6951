import AnnotationGuards.Proofs.Chain.Protection
import AnnotationGuards.Proofs.Realm.Nesting

/-! # No guard is lost silently

    The report on a slot, compared with the annotations that apply to the slot. A
    slot passes everything only if none of its annotations calls for a guard. A
    guard shows up in the report, as instances of the chain or as the reason for
    which the slot is disabled. A circular guard always disables. One defect cuts into
    this: where the message of a guard has no end, there is no report at all.

    * `Link.status_eq_passThrough_iff`, `Link.status_of_guardLike` and
      `Link.status_of_circular`: what a link comes to.
    * `Realm.protection_kept`: what is reported, for members that the scan has put
      down with their slots as well as for those that it has left out.
    * `Realm.circular_unreported_behind_endless`: what the defect costs. -/

namespace AnnotationGuards

variable {σ : Type} {c : LinkContext σ} {guards : SlotGuards} {address : SlotAddress}

/-! ## Reports -/

/-- The report says that the slot is protected: by some number of instances, or by
    saying that it is not. -/
def SlotStatus.TellsOfGuards (s : SlotStatus) : Prop :=
  (∃ links, 1 ≤ links ∧ s = .guarded links) ∨ ∃ reason, s = .disabled reason

theorem SlotState.status_linked_of_ne_nil {chain : List (GuardInstance σ)} (h : chain ≠ []) :
    (SlotState.linked chain).status = .guarded chain.length := by
  cases chain with
  | nil => exact absurd rfl h
  | cons g rest => rfl

/-! ## Links -/

namespace Link

/-- The report on a slot that has been linked. -/
def status (c : LinkContext σ) (guards : SlotGuards) : Except Abort SlotStatus :=
  (outcome c guards).map SlotState.status

/-- A link of which no annotation is a guard leaves an empty chain. -/
theorem status_of_not_guards
    (h : ∀ a ∈ guards.annotations, classify c.registry a.type = .ok false) :
    status c guards = .ok .passThrough := by
  have hpure : contributeAll c guards = pure () :=
    Contribution.forM_eq_pure fun a ha => contribute_of_not_guard (h a ha)
  unfold status outcome
  rw [hpure]
  rfl

/-- A link that breaks off at a text without end has met a guard with such a message. -/
theorem meetsEndlessMessage_of_outcome (h : outcome c guards = .error .endlessText) :
    MeetsEndlessMessage c guards.annotations := by
  obtain ⟨hresult, -⟩ := settle_eq_error h
  obtain ⟨a, ha, htext⟩ := Contribution.forM_eq_error hresult
  obtain ⟨b, hreach, hb⟩ := exists_endlessMessage htext
  exact ⟨a, ha, b, hreach, hb⟩

/-- A link that breaks off does so at a text without end, if panics are contained. -/
theorem outcome_eq_error (hcontain : c.config.containPanics = true)
    (hlocate : c.locate address = .ok (some guards)) {abort : Abort}
    (h : outcome c guards = .error abort) :
    abort = .endlessText ∧ MeetsEndlessMessage c guards.annotations := by
  cases abort with
  | panicked payload =>
    have hnot := (settle_eq_error h).2 payload rfl
    rw [hcontain] at hnot
    cases hnot
  | endlessNesting => exact absurd h (outcome_ne_endlessNesting hlocate)
  | endlessText => exact ⟨rfl, meetsEndlessMessage_of_outcome h⟩

/-- A link that has met a circular guard has not gone through. -/
theorem contributeAll_of_circular {a : Annotation} (ha : a ∈ guards.annotations)
    (hcircular : ∃ e, classify c.registry a.type = .error e) :
    (contributeAll c guards).result ≠ .ok () := by
  intro hok
  obtain ⟨hresult, -⟩ := Contribution.forM_eq_ok hok ha
  obtain ⟨e, he⟩ := hcircular
  obtain ⟨e', herror⟩ := contribute_of_circular he
  rw [herror] at hresult
  cases hresult

theorem status_of_circular (hcontain : c.config.containPanics = true)
    (hlocate : c.locate address = .ok (some guards)) {a : Annotation}
    (ha : a ∈ guards.annotations) (hcircular : ∃ e, classify c.registry a.type = .error e) :
    (∃ reason, status c guards = .ok (.disabled reason)) ∨
    (status c guards = .error .endlessText ∧ MeetsEndlessMessage c guards.annotations) := by
  unfold status
  cases houtcome : outcome c guards with
  | error abort =>
    obtain ⟨rfl, hmeets⟩ := outcome_eq_error hcontain hlocate houtcome
    exact Or.inr ⟨rfl, hmeets⟩
  | ok state =>
    rcases settle_eq_ok houtcome with ⟨hok, -⟩ | ⟨-, reason, rfl⟩
    · exact absurd hok (contributeAll_of_circular ha hcircular)
    · exact Or.inl ⟨reason, rfl⟩

theorem status_of_guardLike (hcontain : c.config.containPanics = true)
    (hlocate : c.locate address = .ok (some guards)) {a : Annotation}
    (ha : a ∈ guards.annotations)
    (hguard : classify c.registry a.type = .ok true ∨ ∃ e, classify c.registry a.type = .error e) :
    (∃ s, status c guards = .ok s ∧ s.TellsOfGuards) ∨
    (status c guards = .error .endlessText ∧ MeetsEndlessMessage c guards.annotations) := by
  unfold status
  cases houtcome : outcome c guards with
  | error abort =>
    obtain ⟨rfl, hmeets⟩ := outcome_eq_error hcontain hlocate houtcome
    exact Or.inr ⟨rfl, hmeets⟩
  | ok state =>
    refine Or.inl ⟨state.status, rfl, ?_⟩
    rcases settle_eq_ok houtcome with ⟨hok, rfl⟩ | ⟨-, reason, rfl⟩
    · have htrue : classify c.registry a.type = .ok true := by
        rcases hguard with htrue | hcircular
        · exact htrue
        · exact absurd hok (contributeAll_of_circular ha hcircular)
      obtain ⟨haok, hsub⟩ := Contribution.forM_eq_ok hok ha
      have hne := instances_ne_nil (Registry.isGuard_iff.mpr htrue) haok
      obtain ⟨g, hg⟩ := List.exists_mem_of_ne_nil _ hne
      have hchain : (contributeAll c guards).instances ≠ [] := List.ne_nil_of_mem (hsub hg)
      rw [SlotState.status_linked_of_ne_nil hchain]
      exact Or.inl ⟨_, List.length_pos_iff.mpr hchain, rfl⟩
    · exact Or.inr ⟨reason, rfl⟩

/-- A slot passes everything exactly if none of its annotations calls for a guard. -/
theorem status_eq_passThrough_iff (hcontain : c.config.containPanics = true)
    (hlocate : c.locate address = .ok (some guards)) :
    status c guards = .ok .passThrough ↔
      ∀ a ∈ guards.annotations, classify c.registry a.type = .ok false := by
  refine ⟨?_, status_of_not_guards⟩
  intro hpass a ha
  by_contra hnot
  have hguard : classify c.registry a.type = .ok true ∨
      ∃ e, classify c.registry a.type = .error e := by
    rcases hc : classify c.registry a.type with e | (_ | _)
    · exact Or.inr ⟨e, rfl⟩
    · exact absurd hc hnot
    · exact Or.inl rfl
  -- Whatever a guard leads to, it is not that everything passes.
  rcases status_of_guardLike hcontain hlocate ha hguard with
    ⟨s, hs, ⟨links, -, rfl⟩ | ⟨reason, rfl⟩⟩ | ⟨hendless, -⟩
  · rw [hs] at hpass; cases hpass
  · rw [hs] at hpass; cases hpass
  · rw [hendless] at hpass; cases hpass

end Link

/-! ## Members that the scan has put down, and members that it has left out -/

namespace Realm

variable {realm : Realm σ} {t : TypeId} {m : Member} {place : Slot} {own : List Annotation}

/-- The report on a slot of a member. -/
def report (realm : Realm σ) (t : TypeId) (m : Member) (place : Slot) :
    Except Abort (Except CheckError SlotStatus) :=
  (realm.slotStatus ⟨t, realm.registry.signature m, place⟩).outcome

theorem report_eq (h : realm.Coherent c) :
    realm.report t m place = c.status ⟨t, c.registry.signature m, place⟩ := by
  unfold report
  rw [h.registry_eq]
  exact (slotStatus_spec h _).1

/-- A slot of a member without guards passes everything, and rightly so. -/
theorem report_of_not_guarded (h : realm.Coherent c) (hslot : c.registry.HasSlot t m place own)
    (hguarded : c.registry.isGuarded m = false) :
    realm.report t m place = .ok (.ok .passThrough) ∧
      ∀ a ∈ own, classify c.registry a.type = .ok false := by
  refine ⟨?_, ?_⟩
  · rw [report_eq h]
    unfold LinkContext.status LinkContext.locate
    rw [hslot.locate_of_not_guarded hguarded]
  · intro a ha
    have hall := Member.mem_allAnnotations hslot.annotations ha
    unfold Registry.isGuarded at hguarded
    rw [List.any_eq_false] at hguarded
    exact Registry.isGuardLike_eq_false_iff.mp (Bool.eq_false_iff.mpr (hguarded a hall))

/-- A slot of a guarded member is linked, with the annotations of its place. -/
theorem report_of_guarded (h : realm.Coherent c) (hslot : c.registry.HasSlot t m place own)
    (hguarded : c.registry.isGuarded m = true) :
    ∃ guards, c.locate ⟨t, c.registry.signature m, place⟩ = .ok (some guards) ∧
      guards.annotations = own ∧ realm.report t m place = (Link.status c guards).map .ok := by
  obtain ⟨guards, hlocate, hannotations⟩ := hslot.locate_of_guarded hguarded
  have hfound : c.locate ⟨t, c.registry.signature m, place⟩ = .ok (some guards) := hlocate
  refine ⟨guards, hfound, hannotations, ?_⟩
  rw [report_eq h]
  unfold LinkContext.status Link.status
  rw [hfound]
  show (Link.outcome c guards).map (fun state => Except.ok state.status) = _
  cases Link.outcome c guards with
  | error abort => rfl
  | ok state => rfl

/-- **No guard is lost silently.** In any realm that contains panics, whatever it has
    been asked before, at every slot of a member that is the only one with its
    signature:

    1. the slot passes everything exactly if none of the annotations that apply to
       it is a guard or circular;
    2. if one is, the report tells of at least one instance or of a fault;
    3. if one is circular, the report tells of a fault.

    This is what holds besides a defect: there is no report at all, instead of one of 2
    or 3, where the link comes to a guard whose message has no end, and only there. -/
theorem protection_kept (h : realm.Reached) (hcontain : realm.config.containPanics = true)
    (hslot : realm.registry.HasSlot t m place own) :
    (realm.report t m place = .ok (.ok .passThrough) ↔
      ∀ a ∈ own, classify realm.registry a.type = .ok false) ∧
    ((∃ a ∈ own, classify realm.registry a.type = .ok true ∨
        ∃ e, classify realm.registry a.type = .error e) →
      (∃ s, realm.report t m place = .ok (.ok s) ∧ s.TellsOfGuards) ∨
      (realm.report t m place = .error .endlessText ∧
        Link.MeetsEndlessMessage realm.context own)) ∧
    ((∃ a ∈ own, ∃ e, classify realm.registry a.type = .error e) →
      (∃ reason, realm.report t m place = .ok (.ok (.disabled reason))) ∨
      (realm.report t m place = .error .endlessText ∧
        Link.MeetsEndlessMessage realm.context own)) := by
  have hcoherent : realm.Coherent ⟨realm.registry, realm.config⟩ := h.coherent
  cases hguarded : realm.registry.isGuarded m with
  | false =>
    obtain ⟨hpass, hnone⟩ := report_of_not_guarded hcoherent hslot hguarded
    refine ⟨iff_of_true hpass hnone, ?_, ?_⟩
    · intro ⟨a, ha, hguard⟩
      rw [hnone a ha] at hguard
      rcases hguard with hguard | ⟨e, hguard⟩ <;> cases hguard
    · intro ⟨a, ha, e, he⟩
      rw [hnone a ha] at he
      cases he
  | true =>
    obtain ⟨guards, hlocate, hannotations, hreport⟩ :=
      report_of_guarded hcoherent hslot hguarded
    subst hannotations
    rw [hreport]
    have hiff := Link.status_eq_passThrough_iff hcontain hlocate
    refine ⟨?_, ?_, ?_⟩
    · rw [← hiff]
      cases hs : Link.status ⟨realm.registry, realm.config⟩ guards with
      | error abort => simp [Except.map]
      | ok s => simp [Except.map]
    · intro ⟨a, ha, hguard⟩
      rcases Link.status_of_guardLike hcontain hlocate ha hguard with
        ⟨s, hs, htells⟩ | ⟨hendless, hmeets⟩
      · exact Or.inl ⟨s, by rw [hs]; rfl, htells⟩
      · exact Or.inr ⟨by rw [hendless]; rfl, hmeets⟩
    · intro ⟨a, ha, hcircular⟩
      rcases Link.status_of_circular hcontain hlocate ha hcircular with
        ⟨reason, hs⟩ | ⟨hendless, hmeets⟩
      · exact Or.inl ⟨reason, by rw [hs]; rfl⟩
      · exact Or.inr ⟨by rw [hendless]; rfl, hmeets⟩

/-- In the small program the composed guard of the recipient is reported. -/
theorem protection_kept_sample :
    (Sample.realm.report Sample.service Sample.send (.param 0) = .ok (.ok .passThrough) ↔
      ∀ a ∈ Sample.recipientGuards.annotations, classify Sample.registry a.type = .ok false) ∧
    ∃ s, Sample.realm.report Sample.service Sample.send (.param 0) = .ok (.ok s) ∧
      s.TellsOfGuards := by
  have hreached : Sample.realm.Reached := ⟨⟨0⟩, Sample.registry, {}, [], rfl⟩
  have hslot : Sample.registry.HasSlot Sample.service Sample.send (.param 0)
      Sample.recipientGuards.annotations :=
    { declared := ⟨_, rfl, List.mem_singleton_self _, by simp⟩, annotations := rfl }
  obtain ⟨hpass, hguard, -⟩ := protection_kept hreached rfl hslot
  refine ⟨hpass, ?_⟩
  rcases hguard ⟨_, List.mem_singleton_self _, Or.inl rfl⟩ with htells | ⟨hendless, -⟩
  · exact htells
  · cases hendless

end Realm

/-! ## A circular guard that is not reported -/

namespace Sample

/-- A default that holds an annotation of the inner guard. -/
def selfDefault : List (String × Option AttrValue) := [("self", some (.nested present []))]

/-- A guard that carries itself. -/
def knotDef : AnnotationDef where
  metas := [{ type := .guardMarker }, { type := required }]

/-- A method whose parameter carries both guards of the small program. -/
def deliver : Member :=
  { send with
    params := [{ name := "to", type := .ofRaw .object
                 annotations := [{ type := present }, { type := required }] }] }

/-- The small program with this method, where the second guard is circular, and the first
    one has a message without end. -/
def knotRegistry : Registry Unit :=
  ((registryWith [deliver]).setKind present
    (.annotationType { presentDef with attributes := selfDefault })).setKind required
      (.annotationType knotDef)

def knotRealm : Realm Unit := Realm.fresh ⟨0⟩ knotRegistry {}

end Sample

namespace Realm

/-- A guard and a circular guard of which nothing is reported: the link does not get past
    the message of the first one. -/
theorem circular_unreported_behind_endless :
    Sample.knotRealm.Reached ∧ Sample.knotRealm.config.containPanics = true ∧
    Sample.knotRealm.registry.HasSlot Sample.service Sample.deliver (.param 0)
      [{ type := Sample.present }, { type := Sample.required }] ∧
    classify Sample.knotRealm.registry Sample.present = .ok true ∧
    (∃ e, classify Sample.knotRealm.registry Sample.required = .error e) ∧
    ∀ s, Sample.knotRealm.report Sample.service Sample.deliver (.param 0) ≠ .ok (.ok s) := by
  have hslot : Sample.knotRealm.registry.HasSlot Sample.service Sample.deliver (.param 0)
      [{ type := Sample.present }, { type := Sample.required }] :=
    { declared := ⟨_, rfl, List.mem_singleton_self _, by simp⟩, annotations := rfl }
  -- The first guard is put to work, message included, before the second one is looked at.
  have hendless : Sample.knotRealm.report Sample.service Sample.deliver (.param 0) =
      .error .endlessText := by
    decide +kernel
  refine ⟨⟨⟨0⟩, _, {}, [], rfl⟩, rfl, hslot, rfl, ⟨_, rfl⟩, ?_⟩
  intro s hreport
  rw [hendless] at hreport
  cases hreport

end Realm

end AnnotationGuards
