import AnnotationGuards.Engine.Live
import AnnotationGuards.Proofs.Chain.Scan
import AnnotationGuards.Proofs.Guard.Handlers

/-! # Definitions and verdicts agree

    To work out a definition the classifier is asked about the type, and once more about
    each of its metas, and either answer can be that there is a cycle. On a registry that
    does not change the second kind never decides: a meta that leads to a cycle of guards
    would have made the type itself circular.

    * `LiveEngine.Coherent`: the tables hold what the registry gives. On a frozen registry
      questions keep it so.
    * `Marking.IsReadOff`: what a marking says of the marker that it is read off, attribute
      by attribute and by the form of the value.
    * `Registry.definition_eq_circular_iff`, `Registry.definition_says`: what a definition
      says.
    * **`LiveEngine.definition_agrees`**: what a definition says, against the verdicts. -/

namespace AnnotationGuards

variable {σ : Type} {r : Registry σ} {config : GuardConfig} {t : TypeId} {marker : Annotation}

/-! ## What a marker is read as -/

namespace AttrValue

/-- The types among the items of an array, in order; what is no type is passed over. -/
inductive TypesIn : List AttrValue → List TypeId → Prop
  | nil : TypesIn [] []
  | type (t : TypeId) {items : List AttrValue} {types : List TypeId} (h : TypesIn items types) :
    TypesIn (.type t :: items) (t :: types)
  | other {item : AttrValue} (hitem : ∀ t, item ≠ .type t) {items : List AttrValue}
    {types : List TypeId} (h : TypesIn items types) : TypesIn (item :: items) types

theorem asStr?_eq_some_iff {v : AttrValue} {text : String} :
    v.asStr? = some text ↔ v = .str text := by
  cases v <;> simp [asStr?]

theorem asBool?_eq_some_iff {v : AttrValue} {b : Bool} : v.asBool? = some b ↔ v = .bool b := by
  cases v <;> simp [asBool?]

theorem asInt?_eq_some_iff {v : AttrValue} {i : Int64} : v.asInt? = some i ↔ v = .int i := by
  cases v <;> simp [asInt?]

theorem asType?_eq_some_iff {v : AttrValue} {t : TypeId} : v.asType? = some t ↔ v = .type t := by
  cases v <;> simp [asType?]

theorem typesIn_asTypes (items : List AttrValue) : TypesIn items (asTypes (.array items)) := by
  show TypesIn items (items.filterMap asType?)
  induction items with
  | nil => exact .nil
  | cons item rest ih =>
    cases h : item.asType? with
    | some t =>
      rw [List.filterMap_cons_some h, asType?_eq_some_iff.mp h]
      exact .type t ih
    | none =>
      rw [List.filterMap_cons_none h]
      refine .other ?_ ih
      rintro t rfl
      cases h

/-- The types of an array are those among its items. -/
theorem asTypes_array_eq_iff {items : List AttrValue} {types : List TypeId} :
    asTypes (.array items) = types ↔ TypesIn items types := by
  constructor
  · rintro rfl
    exact typesIn_asTypes items
  · intro h
    induction h with
    | nil => rfl
    | type t _ ih => exact congrArg (t :: ·) ih
    | other hitem _ ih =>
      refine (List.filterMap_cons_none ?_).trans ih
      exact Option.eq_none_iff_forall_ne_some.mpr fun t ht => hitem t (asType?_eq_some_iff.mp ht)

@[simp] theorem asTypes_type (t : TypeId) : asTypes (.type t) = [t] := rfl

/-- No other value stands for types. -/
theorem asTypes_of_other {v : AttrValue} (harray : ∀ items, v ≠ .array items)
    (htype : ∀ t, v ≠ .type t) : v.asTypes = [] := by
  cases v with
  | array items => exact absurd rfl (harray items)
  | type t => exact absurd rfl (htype t)
  | bool | int | double | str | nested => rfl

end AttrValue

/-- The marking says what the marker says, defaults included. Each attribute is read by the
    form of its value, and a value of another form is like none. -/
structure Marking.IsReadOff (r : Registry σ) (config : GuardConfig) (t : TypeId)
    (marker : Annotation) (m : Marking) : Prop where
  /-- An empty template is none. -/
  template : ∀ text, m.template = some text ↔
    r.attribute? marker MarkerAttribute.message = some (.str text) ∧ text ≠ ""
  testsNull : m.testsNull = true ↔
    r.attribute? marker MarkerAttribute.testsNull = some (.bool true)
  relations_array : ∀ items,
    r.attribute? marker MarkerAttribute.relations = some (.array items) →
      AttrValue.TypesIn items m.relations
  /-- One type stands for an array of it alone. -/
  relations_type : ∀ related,
    r.attribute? marker MarkerAttribute.relations = some (.type related) →
      m.relations = [related]
  relations_other :
    (∀ items, r.attribute? marker MarkerAttribute.relations ≠ some (.array items)) →
    (∀ related, r.attribute? marker MarkerAttribute.relations ≠ some (.type related)) →
      m.relations = []
  order_int : ∀ i, r.attribute? marker MarkerAttribute.order = some (.int i) → m.order = i
  order_other : (∀ i, r.attribute? marker MarkerAttribute.order ≠ some (.int i)) → m.order = 0
  handler : r.resolveHandler config t marker = .ok m.handler

theorem GuardDefinition.isReadOff_of_readMarker {m : Marking}
    (h : readMarker r config t marker = .ok m) : m.IsReadOff r config t marker := by
  obtain ⟨handler, hhandler, hrest⟩ := exists_of_bind_eq_ok h
  cases hrest
  constructor
  case template =>
    intro text
    simp [Option.filter_eq_some_iff, Option.bind_eq_some_iff, AttrValue.asStr?_eq_some_iff]
  case testsNull =>
    simp [Option.getD_eq_iff, Option.bind_eq_some_iff, AttrValue.asBool?_eq_some_iff]
  case relations_array =>
    intro items hvalue
    simp [hvalue, AttrValue.typesIn_asTypes]
  case relations_type =>
    intro related hvalue
    simp [hvalue]
  case relations_other =>
    intro harray htype
    cases hvalue : r.attribute? marker MarkerAttribute.relations with
    | none => rfl
    | some v =>
      rw [hvalue] at harray htype
      exact AttrValue.asTypes_of_other (fun items h => harray items (congrArg some h))
        fun related h => htype related (congrArg some h)
  case order_int =>
    intro i hvalue
    simp [hvalue, AttrValue.asInt?]
  case order_other =>
    intro hvalue
    have hnone : (r.attribute? marker MarkerAttribute.order).bind AttrValue.asInt? = none := by
      simpa [Option.eq_none_iff_forall_ne_some, Option.bind_eq_some_iff,
        AttrValue.asInt?_eq_some_iff] using hvalue
    simp [hnone]
  case handler => exact hhandler

/-! ## What a definition says -/

namespace Registry

/-- The first of the metas that is a marker. -/
theorem find?_marker_eq_some_iff {metas : List Annotation} :
    metas.find? (fun a => a.type = .guardMarker) = some marker ↔
      marker.type = .guardMarker ∧ ∃ before after, metas = before ++ marker :: after ∧
        ∀ a ∈ before, a.type ≠ .guardMarker := by
  simp [List.find?_eq_some_iff_append]

/-- Circular definitions are those of circular types, with the same cycle. -/
theorem definition_eq_circular_iff {name : String} {cycle : Circularity} :
    r.definition config t = .error (.circular name cycle) ↔
      name = r.qualifiedName t ∧ classify r t = .error cycle := by
  constructor
  · intro h
    rcases definition_eq_error h with ⟨cycle', hverdict, heq⟩ | ⟨-, hblames⟩
    · cases heq
      exact ⟨rfl, hverdict⟩
    · cases hblames
  · rintro ⟨rfl, hverdict⟩
    exact definition_of_error hverdict

/-- What a definition says of its type, and how its marking has come about. -/
theorem definition_says {d : GuardDefinition} (h : r.definition config t = .ok (some d)) :
    d.type = t ∧ d.name = r.qualifiedName t ∧
      ∀ m, d.marking = some m → ∃ before marker after, r.metas t = before ++ marker :: after ∧
        marker.type = .guardMarker ∧ (∀ a ∈ before, a.type ≠ .guardMarker) ∧
        m.IsReadOff r config t marker := by
  rw [definition_of_isGuard (definition_eq_some h).1] at h
  obtain ⟨d', hassembled, hsame⟩ := exists_of_map_eq_ok h
  cases hsame
  rcases GuardDefinition.assemble_cases r config t (r.metas t) (r.impliedOf t) with
    ⟨-, heq⟩ | ⟨marker, hfind, heq⟩
  · rw [heq] at hassembled
    cases hassembled
    exact ⟨rfl, rfl, nofun⟩
  · rw [heq] at hassembled
    obtain ⟨m, hread, rfl⟩ := exists_of_map_eq_ok hassembled
    refine ⟨rfl, rfl, ?_⟩
    rintro _ ⟨⟩
    obtain ⟨hmarker, before, after, hmetas, hbefore⟩ := find?_marker_eq_some_iff.mp hfind
    exact ⟨before, marker, after, hmetas, hmarker, hbefore,
      GuardDefinition.isReadOff_of_readMarker hread⟩

end Registry

/-! ## Definitions of an engine on a frozen registry -/

namespace LiveEngine

variable {e : LiveEngine σ}

/-- The tables hold what the registry gives. -/
structure Coherent (e : LiveEngine σ) : Prop where
  definitions : e.definitions.Coherent e.registry e.config
  scans : e.scans.Coherent e.registry

/-- No answers agree with any registry. -/
theorem coherent_frozen (r : Registry σ) (config : GuardConfig) :
    Coherent { registry := r, config } :=
  ⟨DefinitionTable.coherent_empty r config, Entries.agrees_nil _⟩

/-- The answer to the question for a definition, as it is worked out from the registry. -/
theorem Coherent.ask_definition (h : e.Coherent) (t : TypeId) :
    (e.ask (.definition t)).1 = .definition (e.registry.definition e.config t) := by
  obtain ⟨table, heq, -⟩ := DefinitionTable.definitionFor_eq h.definitions t
  show EngineAnswer.definition (e.definitions.definitionFor e.registry e.config t).1 = _
  rw [heq]

theorem Coherent.ask (h : e.Coherent) (q : EngineQuery) : (e.ask q).2.Coherent := by
  cases q with
  | verdict | instantiator => exact ⟨h.definitions, h.scans⟩
  | verdictBehind t =>
    obtain ⟨table, heq, htable⟩ := DefinitionTable.isGuard_eq h.definitions t
    have hasked : (e.definitions.isGuard e.registry t).2.Coherent e.registry e.config := by
      rw [heq]
      exact htable
    exact ⟨hasked, h.scans⟩
  | definition t =>
    obtain ⟨table, heq, htable⟩ := DefinitionTable.definitionFor_eq h.definitions t
    have hasked : (e.definitions.definitionFor e.registry e.config t).2.Coherent e.registry
        e.config := by
      rw [heq]
      exact htable
    exact ⟨hasked, h.scans⟩
  | scan t =>
    obtain ⟨scans, verdicts, heq, hscans, hverdicts⟩ :=
      ScanTable.guardsFor_eq h.scans h.definitions.verdicts t
    have hasked : (e.scans.guardsFor e.registry e.definitions.verdicts t).2 =
        (scans, verdicts) := congrArg Prod.snd heq
    constructor
    case definitions =>
      refine ⟨?_, h.definitions.definitions⟩
      show (e.scans.guardsFor e.registry e.definitions.verdicts t).2.2.Coherent e.registry
      rw [hasked]
      exact hverdicts
    case scans =>
      show (e.scans.guardsFor e.registry e.definitions.verdicts t).2.1.Coherent e.registry
      rw [hasked]
      exact hscans

/-- Questions change neither the registry nor the configuration. -/
theorem frame_ask (e : LiveEngine σ) (q : EngineQuery) :
    (e.ask q).2.registry = e.registry ∧ (e.ask q).2.config = e.config := by
  cases q <;> exact ⟨rfl, rfl⟩

theorem Coherent.after_questions (h : e.Coherent) (questions : List EngineQuery) :
    (e.after (questions.map .ask)).Coherent ∧
      (e.after (questions.map .ask)).registry = e.registry ∧
      (e.after (questions.map .ask)).config = e.config := by
  induction questions generalizing e with
  | nil => exact ⟨h, rfl, rfl⟩
  | cons q rest ih =>
    obtain ⟨hrest, hregistry, hconfig⟩ := ih (h.ask q)
    obtain ⟨hregistry', hconfig'⟩ := e.frame_ask q
    exact ⟨hrest, hregistry.trans hregistry', hconfig.trans hconfig'⟩

/-- **Definitions agree with verdicts** on a registry that does not change, whatever has
    been asked before:

    1. there is no definition exactly of the types that are no guards;
    2. it is circular exactly if the verdict is, with the same cycle;
    3. whatever else is wrong with it is that there is no handler or that it cannot serve,
       and the type carries the marker itself;
    4. a definition has a marking, and a handler with it, exactly if the type carries the
       marker. It says what the first marker says;
    5. it implies the metas of the type that are guards, in order and as often as they
       stand there, but for markers and the language's own metas. None of them is
       circular. -/
theorem definition_agrees (r : Registry σ) (config : GuardConfig) (questions : List EngineQuery)
    (t : TypeId) :
    ∃ answer : DefinitionResult,
      ((after { registry := r, config } (questions.map .ask)).ask (.definition t)).1 =
        .definition answer ∧
      (answer = .ok none ↔ classify r t = .ok false) ∧
      (∀ name cycle, answer = .error (.circular name cycle) ↔
        name = r.qualifiedName t ∧ classify r t = .error cycle) ∧
      (∀ fault, answer = .error fault →
        (∃ cycle, fault = .circular (r.qualifiedName t) cycle) ∨
          r.Marked t ∧ fault.BlamesHandler (r.qualifiedName t)) ∧
      ∀ d, answer = .ok (some d) →
        d.type = t ∧ d.name = r.qualifiedName t ∧
        (d.marking.isSome = true ↔ r.Marked t) ∧
        (∀ m, d.marking = some m → ∃ before marker after, r.metas t = before ++ marker :: after ∧
          marker.type = .guardMarker ∧ (∀ a ∈ before, a.type ≠ .guardMarker) ∧
          m.IsReadOff r config t marker) ∧
        d.implied =
          ((r.metas t).filter fun a => !Registry.isSilentMeta a.type && r.isGuard a.type) ∧
        ∀ a, a ∈ d.implied ↔ a ∈ r.metas t ∧ a.type ≠ .guardMarker ∧
          a.type ∉ TypeId.languageMetas ∧ classify r a.type = .ok true := by
  obtain ⟨hcoherent, hregistry, hconfig⟩ := (coherent_frozen r config).after_questions questions
  have hanswer := hcoherent.ask_definition t
  rw [hregistry, hconfig] at hanswer
  refine ⟨r.definition config t, hanswer, Registry.definition_eq_none_iff,
    fun _ _ => Registry.definition_eq_circular_iff, ?_, ?_⟩
  · intro fault hfault
    rcases Registry.definition_eq_error hfault with ⟨cycle, -, rfl⟩ | hmarked
    · exact Or.inl ⟨cycle, rfl⟩
    · exact Or.inr hmarked
  · intro d hd
    obtain ⟨htype, hname, hmarking⟩ := Registry.definition_says hd
    obtain ⟨-, himplied, hmarked⟩ := Registry.definition_eq_some hd
    refine ⟨htype, hname, hmarked, hmarking, himplied, ?_⟩
    intro a
    rw [himplied, Registry.mem_impliedOf, Registry.isSilentMeta_eq_false_iff, Registry.isGuard_iff,
      and_assoc]

/-- A marker that ranks its guard among others. What stands between them is no type. -/
def Sample.ranking : Annotation :=
  ⟨.guardMarker, [(MarkerAttribute.message, .str "not positive"),
    (MarkerAttribute.relations, .array [.type ⟨34⟩, .str "none", .type ⟨36⟩]),
    (MarkerAttribute.order, .int 3), (MarkerAttribute.testsNull, .bool true)]⟩

/-- A guard with a handler of its own, and one that is composed of it twice over and has a
    handler of its own as well. This one is marked twice, with two ranks. -/
def Sample.twiceMarked : Registry Unit := Registry.initial.after [
  .declareAnnotationType "demo" "Min" { metas := [{ type := .guardMarker }] },
  .declareNested ⟨34⟩ "Handler" {},
  .setHandler ⟨35⟩ {},
  .declareAnnotationType "demo" "Positive" {
    metas := [{ type := ⟨34⟩ }, Sample.ranking, { type := .documented }, { type := ⟨34⟩ },
      ⟨.guardMarker, [(MarkerAttribute.order, .int 7)]⟩] },
  .declareNested ⟨36⟩ "Handler" {},
  .setHandler ⟨37⟩ {}]

/-- The first marker counts, with all that it says, and what is no type is no relation. The
    meta that stands there twice is implied twice. -/
theorem definition_agrees_sample :
    ∃ d m, ((after { registry := Sample.twiceMarked } [.ask (.definition ⟨34⟩)]).ask
        (.definition ⟨36⟩)).1 = .definition (.ok (some d)) ∧
      d.marking = some m ∧ m.template = some "not positive" ∧ m.testsNull = true ∧
      m.relations = [⟨34⟩, ⟨36⟩] ∧ m.order = 3 ∧ m.handler = ⟨37⟩ ∧
      d.implied = [{ type := ⟨34⟩ }, { type := ⟨34⟩ }] ∧
      classify Sample.twiceMarked ⟨34⟩ = .ok true := by
  obtain ⟨answer, hanswer, -, -, -, hsays⟩ :=
    definition_agrees Sample.twiceMarked {} [.definition ⟨34⟩] ⟨36⟩
  have hdefined : ∃ d, answer = .ok (some d) :=
    ⟨_, (EngineAnswer.definition.inj hanswer).symm⟩
  obtain ⟨d, rfl⟩ := hdefined
  obtain ⟨-, -, hmarked, hread, himplied, hguards⟩ := hsays d rfl
  have hcarries : Sample.twiceMarked.Marked ⟨36⟩ :=
    ⟨Sample.ranking, List.mem_cons_of_mem _ List.mem_cons_self, rfl⟩
  obtain ⟨m, hmarking⟩ := Option.isSome_iff_exists.mp (hmarked.mpr hcarries)
  obtain ⟨before, marker, after, hmetas, hmarker, hbefore, hsaid⟩ := hread m hmarking
  -- The marker that counts is the first one among the metas.
  have hfirst : some Sample.ranking = some marker :=
    Registry.find?_marker_eq_some_iff.mpr ⟨hmarker, before, after, hmetas, hbefore⟩
  cases hfirst
  have hrelations := AttrValue.asTypes_array_eq_iff.mpr (hsaid.relations_array _ rfl)
  have hhandler : m.handler = ⟨37⟩ := (Except.ok.inj hsaid.handler).symm
  have hlist : d.implied = [{ type := ⟨34⟩ }, { type := ⟨34⟩ }] := himplied.trans rfl
  have hmin := (hguards { type := ⟨34⟩ }).mp (by simp [hlist])
  exact ⟨d, m, hanswer, hmarking, (hsaid.template _).mpr ⟨rfl, by decide⟩,
    hsaid.testsNull.mpr rfl, hrelations.symm, hsaid.order_int 3 rfl, hhandler, hlist,
    hmin.2.2.2⟩

end LiveEngine

end AnnotationGuards
