import AnnotationGuards.Engine.Live

/-! # Answers stay as they are

    The tables of an engine are nested. To work out a definition the verdicts on the
    metas of a type are asked for, and for a scan the verdicts on all annotations that it
    meets, and each of them is kept from then on. So what is kept depends on which
    questions came up first, and on the registry as it stood then: verdicts that are kept
    may disagree with a registry that has changed.

    * `VerdictTable.Advances`: a table of verdicts keeps what it holds, and gains verdicts
      of one registry only.
    * `DefinitionTable.definitionFor_advances`, `ScanTable.guardsFor_advances`: the
      questions that are put on the way lead to no more than that.
    * `LiveEngine.known?_ask_self`, `LiveEngine.known?_ask_gained`: one question answers
      itself, and freezes verdicts of the registry as it stands.
    * `LiveEngine.extends_after`: what is known stays known in any run.
    * **`LiveEngine.answers_stable`**: every question has one answer in any run. -/

namespace AnnotationGuards

variable {σ : Type} {r : Registry σ} {t : TypeId}

/-! ## Tables that keep what they hold -/

namespace Entries

variable {κ : Type u} {α : Type v} [DecidableEq κ]

/-- Whatever stands in the first table stands in the second. -/
def Kept (old new : Entries κ α) : Prop :=
  ∀ key a, get? old key = some a → get? new key = some a

/-- What a table holds under a key, or else an answer that is worked out now, and the
    table in which it stands from now on. All tables of an engine are asked like this. -/
def once (entries : Entries κ α) (key : κ) (value : α) : α × Entries κ α :=
  match get? entries key with
  | some a => (a, entries)
  | none => (value, put entries key value)

/-- What a table holds after it has been asked: the answer, and whatever it held before. -/
theorem get?_once (entries : Entries κ α) (key other : κ) (value : α) :
    get? (once entries key value).2 other =
      if key = other then some (once entries key value).1 else get? entries other := by
  unfold once
  cases h : get? entries key with
  | some a =>
    by_cases hkey : key = other
    · rw [if_pos hkey, ← hkey]
      exact h
    · rw [if_neg hkey]
  | none => exact get?_put ..

theorem map_get?_of_once {β : Type w} {old new : Entries κ α} {key : κ} {x : α} {f : α → β}
    {y : β} (h : (y, new) = Prod.map f id (once old key x)) : (get? new key).map f = some y := by
  cases h
  show Option.map f (get? (once old key x).2 key) = _
  rw [get?_once, if_pos rfl]
  rfl

theorem map_get?_of_once_of_ne {β : Type w} {old new : Entries κ α} {key other : κ} {x : α}
    {f : α → β} {y z : β} (h : (y, new) = Prod.map f id (once old key x)) (hne : key ≠ other)
    (hz : (get? new other).map f = some z) : (get? old other).map f = some z := by
  cases h
  have hother : get? (once old key x).2 other = get? old other := by
    rw [get?_once, if_neg hne]
  rw [← hother]
  exact hz

end Entries

namespace Entries.Kept

variable {κ : Type u} {α : Type v} [DecidableEq κ] {a b c : Entries κ α}

theorem refl (a : Entries κ α) : Kept a a := fun _ _ h => h

theorem trans (h : Kept a b) (h' : Kept b c) : Kept a c := fun key x hx => h' key x (h key x hx)

/-- A key that is new can be put without loss. -/
theorem put {key : κ} (h : get? a key = none) (x : α) : Kept a (Entries.put a key x) := by
  intro other y hy
  have hne : key ≠ other := by
    rintro rfl
    rw [h] at hy
    cases hy
  rw [get?_put, if_neg hne]
  exact hy

theorem map {β : Type w} (h : Kept a b) {f : α → β} {key : κ} {y : β}
    (hy : (get? a key).map f = some y) : (get? b key).map f = some y := by
  obtain ⟨x, hx, rfl⟩ := Option.map_eq_some_iff.mp hy
  rw [h key x hx]
  rfl

/-- A table that is asked loses nothing. -/
theorem of_once {β : Type w} {key : κ} {x : α} {f : α → β} {y : β}
    (h : (y, b) = Prod.map f id (Entries.once a key x)) : Kept a b := by
  cases h
  show Kept a (Entries.once a key x).2
  unfold Entries.once
  cases hget : get? a key with
  | some y => exact .refl a
  | none => exact .put hget x

end Entries.Kept

/-- The verdicts that the first table holds are kept, and those that have come are the
    registry's. -/
structure VerdictTable.Advances (r : Registry σ) (old new : VerdictTable) : Prop where
  kept : Entries.Kept old new
  gained : ∀ t v, Entries.get? new t = some v → Entries.get? old t = some v ∨ v = classify r t

namespace VerdictTable.Advances

variable {a b c : VerdictTable}

theorem refl (r : Registry σ) (a : VerdictTable) : Advances r a a where
  kept := .refl a
  gained _ _ h := .inl h

theorem trans (h : Advances r a b) (h' : Advances r b c) : Advances r a c where
  kept := h.kept.trans h'.kept
  gained := by
    intro t v hv
    rcases h'.gained t v hv with hb | rfl
    · exact h.gained t v hb
    · exact .inr rfl

end VerdictTable.Advances

/-! ## Verdicts -/

namespace VerdictTable

theorem isGuard_advances (r : Registry σ) (table : VerdictTable) (t : TypeId) :
    Advances r table (isGuard r table t).2 := by
  unfold isGuard
  cases h : Entries.get? table t with
  | some verdict => exact .refl r table
  | none =>
    constructor
    case kept => exact .put h _
    case gained =>
      intro s v hv
      rw [Entries.get?_put] at hv
      split at hv
      · next hst =>
        subst hst
        exact .inr (Option.some.inj hv).symm
      · exact .inl hv

theorem isGuard_eq_once (r : Registry σ) (table : VerdictTable) (t : TypeId) :
    isGuard r table t = Entries.once table t (classify r t) := by
  unfold isGuard Entries.once
  cases Entries.get? table t <;> rfl

theorem isGuardLike_advances (r : Registry σ) (table : VerdictTable) (a : Annotation) :
    Advances r table (isGuardLike r table a).2 := by
  have h := isGuard_advances r table a.type
  unfold isGuardLike
  generalize isGuard r table a.type = answer at h ⊢
  rcases answer with ⟨_ | _, table'⟩ <;> exact h

theorem anyGuardLike_advances (r : Registry σ) (table : VerdictTable)
    (annotations : List Annotation) : Advances r table (anyGuardLike r table annotations).2 := by
  induction annotations generalizing table with
  | nil => exact .refl r table
  | cons a rest ih =>
    have h := isGuardLike_advances r table a
    unfold anyGuardLike
    generalize isGuardLike r table a = answer at h ⊢
    rcases answer with ⟨_ | _, table'⟩
    · exact h.trans (ih table')
    · exact h

end VerdictTable

/-! ## Definitions -/

theorem GuardDefinition.impliedGuards_advances (r : Registry σ) (table : VerdictTable)
    (metas : List Annotation) :
    VerdictTable.Advances r table (impliedGuards r table metas).2 := by
  induction metas generalizing table with
  | nil => exact .refl r table
  | cons m rest ih =>
    unfold impliedGuards
    split
    · exact ih table
    · have h := VerdictTable.isGuard_advances r table m.type
      generalize VerdictTable.isGuard r table m.type = answer at h ⊢
      rcases answer with ⟨_ | guard, table'⟩
      · exact h
      · have hrest := h.trans (ih table')
        dsimp only at hrest ⊢
        generalize impliedGuards r table' rest = found at hrest ⊢
        rcases found with ⟨_ | _, table''⟩ <;> exact hrest

theorem GuardDefinition.build_advances (r : Registry σ) (config : GuardConfig)
    (table : VerdictTable) (t : TypeId) :
    VerdictTable.Advances r table (build r config table t).2 := by
  have h := VerdictTable.isGuard_advances r table t
  unfold build
  generalize VerdictTable.isGuard r table t = answer at h ⊢
  rcases answer with ⟨_ | _ | _, table'⟩
  · exact h
  · exact h
  · dsimp only
    cases r.annotation? t with
    | none => exact h
    | some d =>
      have hmetas := h.trans (impliedGuards_advances r table' d.metas)
      dsimp only at hmetas ⊢
      generalize impliedGuards r table' d.metas = found at hmetas ⊢
      rcases found with ⟨_ | _, table''⟩ <;> exact hmetas

namespace DefinitionTable

theorem definitionFor_advances (r : Registry σ) (config : GuardConfig) (table : DefinitionTable)
    (t : TypeId) :
    VerdictTable.Advances r table.verdicts (definitionFor r config table t).2.verdicts := by
  have h := GuardDefinition.build_advances r config table.verdicts t
  unfold definitionFor
  cases Entries.get? table.definitions t with
  | some result => exact .refl r _
  | none => exact h

theorem definitionFor_eq_once (r : Registry σ) (config : GuardConfig) (table : DefinitionTable)
    (t : TypeId) :
    ((definitionFor r config table t).1, (definitionFor r config table t).2.definitions) =
      Entries.once table.definitions t (GuardDefinition.build r config table.verdicts t).1 := by
  unfold definitionFor Entries.once
  cases Entries.get? table.definitions t <;> rfl

end DefinitionTable

/-! ## Scans -/

namespace ScannedClass

theorem record_advances (r : Registry σ) (declaring : TypeId)
    (members : Entries String MemberEntry) (table : VerdictTable) (m : Member) :
    VerdictTable.Advances r table (record r declaring members table m).2 := by
  have h := VerdictTable.anyGuardLike_advances r table (allAnnotations m)
  unfold record
  dsimp only
  split
  · exact .refl r table
  · generalize VerdictTable.anyGuardLike r table (allAnnotations m) = answer at h ⊢
    rcases answer with ⟨_ | _, table'⟩ <;> exact h

theorem recordAll_advances (r : Registry σ) (declaring : TypeId)
    (members : Entries String MemberEntry) (table : VerdictTable) (rest : List Member) :
    VerdictTable.Advances r table (recordAll r declaring members table rest).2 := by
  induction rest generalizing members table with
  | nil => exact .refl r table
  | cons m rest ih => exact (record_advances r declaring members table m).trans (ih _ _)

theorem scan_advances (r : Registry σ) (table : VerdictTable) (t : TypeId) :
    VerdictTable.Advances r table (scan r table t).2 := by
  unfold scan
  cases r.class? t with
  | none => exact .refl r table
  | some c => exact recordAll_advances r t [] table c.members

end ScannedClass

namespace ScanTable

theorem guardsFor_advances (r : Registry σ) (scans : ScanTable) (verdicts : VerdictTable)
    (t : TypeId) : VerdictTable.Advances r verdicts (guardsFor r scans verdicts t).2.2 := by
  have h := ScannedClass.scan_advances r verdicts t
  unfold guardsFor
  cases Entries.get? scans t with
  | some result => exact .refl r verdicts
  | none => exact h

theorem guardsFor_eq_once (r : Registry σ) (scans : ScanTable) (verdicts : VerdictTable)
    (t : TypeId) :
    ((guardsFor r scans verdicts t).1, (guardsFor r scans verdicts t).2.1) =
      Entries.once scans t (ScannedClass.scan r verdicts t).1 := by
  unfold guardsFor Entries.once
  cases Entries.get? scans t <;> rfl

end ScanTable

theorem InstantiatorTable.get_eq_once (r : Registry σ) (table : InstantiatorTable σ)
    (h : TypeId) :
    get r table h = Entries.once table h (Instantiator.make r h) := by
  unfold get Entries.once
  cases Entries.get? table h <;> rfl

/-! ## One question -/

namespace LiveEngine

variable {e e' e'' : LiveEngine σ} {p q : EngineQuery} {a b : EngineAnswer σ}

/-- Every answer that the first engine keeps is kept by the second. -/
structure Extends (e e' : LiveEngine σ) : Prop where
  verdicts : Entries.Kept e.verdicts e'.verdicts
  behind : Entries.Kept e.definitions.verdicts e'.definitions.verdicts
  definitions : Entries.Kept e.definitions.definitions e'.definitions.definitions
  instantiators : Entries.Kept e.instantiators e'.instantiators
  scans : Entries.Kept e.scans e'.scans

theorem Extends.refl (e : LiveEngine σ) : e.Extends e :=
  ⟨.refl _, .refl _, .refl _, .refl _, .refl _⟩

theorem Extends.trans (h : e.Extends e') (h' : e'.Extends e'') : e.Extends e'' where
  verdicts := h.verdicts.trans h'.verdicts
  behind := h.behind.trans h'.behind
  definitions := h.definitions.trans h'.definitions
  instantiators := h.instantiators.trans h'.instantiators
  scans := h.scans.trans h'.scans

theorem Extends.known? (h : e.Extends e') (hknown : e.known? p = some a) :
    e'.known? p = some a := by
  cases p with
  | verdict => exact h.verdicts.map hknown
  | verdictBehind => exact h.behind.map hknown
  | definition => exact h.definitions.map hknown
  | instantiator => exact h.instantiators.map hknown
  | scan => exact h.scans.map hknown

/-- The verdicts behind the definitions that a question leads to are the registry's. -/
theorem ask_advances (e : LiveEngine σ) (q : EngineQuery) :
    VerdictTable.Advances e.registry e.definitions.verdicts
      (e.ask q).2.definitions.verdicts := by
  cases q with
  | verdict | instantiator => exact .refl _ _
  | verdictBehind t => exact VerdictTable.isGuard_advances e.registry _ t
  | definition t => exact e.definitions.definitionFor_advances e.registry e.config t
  | scan t => exact e.scans.guardsFor_advances e.registry _ t

/-! Each question is put to one table, which is asked for the answer once. -/

theorem ask_verdict (e : LiveEngine σ) (t : TypeId) :
    ((e.ask (.verdict t)).1, (e.ask (.verdict t)).2.verdicts) =
      Prod.map EngineAnswer.verdict id (Entries.once e.verdicts t (classify e.registry t)) :=
  congrArg (Prod.map EngineAnswer.verdict id) (VerdictTable.isGuard_eq_once e.registry e.verdicts t)

theorem ask_verdictBehind (e : LiveEngine σ) (t : TypeId) :
    ((e.ask (.verdictBehind t)).1, (e.ask (.verdictBehind t)).2.definitions.verdicts) =
      Prod.map EngineAnswer.verdict id
        (Entries.once e.definitions.verdicts t (classify e.registry t)) :=
  congrArg (Prod.map EngineAnswer.verdict id)
    (VerdictTable.isGuard_eq_once e.registry e.definitions.verdicts t)

theorem ask_definition (e : LiveEngine σ) (t : TypeId) :
    ((e.ask (.definition t)).1, (e.ask (.definition t)).2.definitions.definitions) =
      Prod.map EngineAnswer.definition id (Entries.once e.definitions.definitions t
        (GuardDefinition.build e.registry e.config e.definitions.verdicts t).1) :=
  congrArg (Prod.map EngineAnswer.definition id)
    (e.definitions.definitionFor_eq_once e.registry e.config t)

theorem ask_instantiator (e : LiveEngine σ) (h : TypeId) :
    ((e.ask (.instantiator h)).1, (e.ask (.instantiator h)).2.instantiators) =
      Prod.map EngineAnswer.instantiator id
        (Entries.once e.instantiators h (Instantiator.make e.registry h)) :=
  congrArg (Prod.map EngineAnswer.instantiator id)
    (InstantiatorTable.get_eq_once e.registry e.instantiators h)

theorem ask_scan (e : LiveEngine σ) (t : TypeId) :
    ((e.ask (.scan t)).1, (e.ask (.scan t)).2.scans) =
      Prod.map EngineAnswer.scan id (Entries.once e.scans t
        (ScannedClass.scan e.registry e.definitions.verdicts t).1) :=
  congrArg (Prod.map EngineAnswer.scan id)
    (e.scans.guardsFor_eq_once e.registry e.definitions.verdicts t)

/-- A question takes no answer away. -/
theorem extends_ask (e : LiveEngine σ) (q : EngineQuery) : e.Extends (e.ask q).2 := by
  have hbehind := (e.ask_advances q).kept
  cases q with
  | verdict t => exact { Extends.refl e with verdicts := .of_once (e.ask_verdict t) }
  | verdictBehind t => exact { Extends.refl e with behind := hbehind }
  | definition t =>
    exact { Extends.refl e with behind := hbehind, definitions := .of_once (e.ask_definition t) }
  | instantiator t =>
    exact { Extends.refl e with instantiators := .of_once (e.ask_instantiator t) }
  | scan t => exact { Extends.refl e with behind := hbehind, scans := .of_once (e.ask_scan t) }

/-- The answer to a question is kept. -/
theorem known?_ask_self (e : LiveEngine σ) (q : EngineQuery) :
    (e.ask q).2.known? q = some (e.ask q).1 := by
  cases q with
  | verdict t => exact Entries.map_get?_of_once (e.ask_verdict t)
  | verdictBehind t => exact Entries.map_get?_of_once (e.ask_verdictBehind t)
  | definition t => exact Entries.map_get?_of_once (e.ask_definition t)
  | instantiator t => exact Entries.map_get?_of_once (e.ask_instantiator t)
  | scan t => exact Entries.map_get?_of_once (e.ask_scan t)

/-- What is known is what is answered. -/
theorem ask_of_known? (h : e.known? q = some a) : (e.ask q).1 = a := by
  have hself := e.known?_ask_self q
  rw [(e.extends_ask q).known? h] at hself
  exact (Option.some.inj hself).symm

/-- What a question freezes beside its own answer: verdicts by the registry as it
    stands. -/
theorem known?_ask_gained (h : (e.ask q).2.known? p = some a) (hne : p ≠ q) :
    e.known? p = some a ∨
      ∃ t, p = .verdictBehind t ∧ a = .verdict (classify e.registry t) := by
  cases p with
  | verdictBehind t =>
    obtain ⟨v, hv, rfl⟩ := Option.map_eq_some_iff.mp h
    rcases (e.ask_advances q).gained t v hv with hold | rfl
    · left
      show Option.map _ (Entries.get? e.definitions.verdicts t) = _
      rw [hold]
      rfl
    · exact .inr ⟨t, rfl, rfl⟩
  | verdict t =>
    left
    cases q with
    | verdict s =>
      have hst : s ≠ t := fun heq => hne (heq ▸ rfl)
      exact Entries.map_get?_of_once_of_ne (e.ask_verdict s) hst h
    | _ => exact h
  | definition t =>
    left
    cases q with
    | definition s =>
      have hst : s ≠ t := fun heq => hne (heq ▸ rfl)
      exact Entries.map_get?_of_once_of_ne (e.ask_definition s) hst h
    | _ => exact h
  | instantiator t =>
    left
    cases q with
    | instantiator s =>
      have hst : s ≠ t := fun heq => hne (heq ▸ rfl)
      exact Entries.map_get?_of_once_of_ne (e.ask_instantiator s) hst h
    | _ => exact h
  | scan t =>
    left
    cases q with
    | scan s =>
      have hst : s ≠ t := fun heq => hne (heq ▸ rfl)
      exact Entries.map_get?_of_once_of_ne (e.ask_scan s) hst h
    | _ => exact h

/-! ## Runs -/

/-- A change takes no answer away, whatever becomes of the registry. -/
theorem extends_next (e : LiveEngine σ) (step : EngineStep σ) : e.Extends (e.next step) := by
  cases step with
  | change | configure => exact ⟨.refl _, .refl _, .refl _, .refl _, .refl _⟩
  | ask q => exact e.extends_ask q

theorem extends_after (e : LiveEngine σ) (steps : List (EngineStep σ)) :
    e.Extends (e.after steps) := by
  induction steps generalizing e with
  | nil => exact .refl e
  | cons step rest ih => exact (e.extends_next step).trans (ih _)

/-- Whatever has been answered in a run is known after it. -/
theorem known?_of_mem_answers {steps : List (EngineStep σ)} (h : (q, a) ∈ e.answers steps) :
    (e.after steps).known? q = some a := by
  induction steps generalizing e with
  | nil => cases h
  | cons step rest ih =>
    cases step with
    | change | configure => exact ih h
    | ask p =>
      rcases List.mem_cons.mp h with heq | hrest
      · cases heq
        exact ((e.ask q).2.extends_after rest).known? (e.known?_ask_self q)
      · exact ih hrest

/-- **Answers are stable, whatever becomes of the registry and the configuration.** In any
    run of changes and questions, from an engine with any answers in its tables:

    1. a question that is asked more than once gets one answer each time, errors included;
    2. what is known at the beginning, be it by a question or on the way to another answer,
       is still known after the run, and it is what is answered then;
    3. once a question has been asked, its answer is known;
    4. and a question freezes nothing beside its own answer but verdicts of the classifier
       behind the definitions, each one by the registry as it stands then. -/
theorem answers_stable (e : LiveEngine σ) (steps : List (EngineStep σ)) :
    (∀ q a b, (q, a) ∈ e.answers steps → (q, b) ∈ e.answers steps → a = b) ∧
    (∀ q a, e.known? q = some a →
      (e.after steps).known? q = some a ∧ ((e.after steps).ask q).1 = a) ∧
    (∀ q, (e.ask q).2.known? q = some (e.ask q).1) ∧
    (∀ p q a, p ≠ q → (e.ask q).2.known? p = some a →
      e.known? p = some a ∨
        ∃ t, p = .verdictBehind t ∧ a = .verdict (classify e.registry t)) := by
  refine ⟨?_, ?_, e.known?_ask_self, ?_⟩
  · intro q a b ha hb
    have hknown := known?_of_mem_answers ha
    rw [known?_of_mem_answers hb] at hknown
    exact (Option.some.inj hknown).symm
  · intro q a hknown
    have hafter := (e.extends_after steps).known? hknown
    exact ⟨hafter, ask_of_known? hafter⟩
  · intro p q a hne hknown
    exact known?_ask_gained hknown hne

/-- An engine that has been asked whether an annotation type is a guard, when it was none. -/
def Sample.asked : LiveEngine Unit :=
  LiveEngine.after {} [.change (.declareAnnotationType "demo" "Min" {}), .ask (.verdict ⟨34⟩)]

/-- The type carries the marker now, and the verdict stands. -/
theorem answers_stable_sample :
    let marked := Sample.asked.after [.change (.addMeta ⟨34⟩ { type := .guardMarker })]
    classify marked.registry ⟨34⟩ = .ok true ∧
      (marked.ask (.verdict ⟨34⟩)).1 = .verdict (.ok false) :=
  ⟨rfl, ((answers_stable Sample.asked _).2.1 _ _ rfl).2⟩

end LiveEngine

end AnnotationGuards
