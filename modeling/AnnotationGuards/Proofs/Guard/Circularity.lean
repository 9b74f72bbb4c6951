import AnnotationGuards.Proofs.Guard.Classification

/-! # What a reported circularity says

    The verdict on a circular guard names a cycle. It is the one on which the walk closed:
    what the walk had left again before, and the way from the type in question to the
    cycle, are no part of it.

    * `Registry.Carries`: a type carries another one as a meta.
    * `MetaGraph.Spans.cycle_of_guardCycle`: the cycle that a walk closes is one of metas.
    * `exists_circularity_of_reach`: whatever leads to a cycle of guards is circular.
    * **`reported_circularity`**: the path that is reported is a cycle of guards, and all
      types on it, before it and above it are circular as well. -/

namespace AnnotationGuards

open Relation

variable {σ : Type} {r : Registry σ} {t m : TypeId}

/-! ## Metas of any kind -/

namespace Registry

/-- The type `t` carries a meta of type `m`, which is neither the guard marker nor one of
    the language's own metas. It need not be an annotation type, or be there at all. -/
def Carries (r : Registry σ) (t m : TypeId) : Prop :=
  (∃ a ∈ r.metas t, a.type = m) ∧ m ≠ .guardMarker ∧ m ∉ TypeId.languageMetas

theorem isAnnotation_of_carries (h : r.Carries t m) : r.isAnnotation t = true := by
  obtain ⟨⟨a, ha, -⟩, -⟩ := h
  exact isAnnotation_of_mem_metas ha

theorem metaStep_iff_carries : r.MetaStep t m ↔ r.Carries t m ∧ r.isAnnotation m = true := by
  constructor
  · intro ⟨_, hmeta, hm, hmarker, hlanguage⟩
    exact ⟨⟨hmeta, hmarker, hlanguage⟩, hm⟩
  · intro ⟨hcarries, hm⟩
    exact ⟨isAnnotation_of_carries hcarries, hcarries.1, hm, hcarries.2⟩

/-- Nothing is carried by what is no annotation type. So on the way to an annotation type
    there are annotation types only. -/
theorem reach_of_carries (ht : r.isAnnotation t = true) (h : ReflTransGen r.Carries m t) :
    ReflTransGen r.MetaStep m t := by
  have hboth : r.isAnnotation m = true ∧ ReflTransGen r.MetaStep m t := by
    induction h using ReflTransGen.head_induction_on with
    | refl => exact ⟨ht, .refl⟩
    | head hcarries _ ih =>
      exact ⟨isAnnotation_of_carries hcarries,
        .head (metaStep_iff_carries.mpr ⟨hcarries, ih.1⟩) ih.2⟩
  exact hboth.2

end Registry

/-! ## The cycle that is reported -/

/-- The cycle that a walk closes is one of metas, and its first type leads to a marked
    one. -/
theorem MetaGraph.Spans.cycle_of_guardCycle {g : MetaGraph} (h : Spans r t g)
    {cycle : List TypeId} (hcycle : g.guardCycle t = some cycle) :
    ∃ c rest, cycle = c :: rest ++ [c] ∧ (c :: rest).Nodup ∧ cycle.IsChain r.MetaStep ∧
      ReflTransGen r.MetaStep t c ∧ r.LeadsToMarked c := by
  obtain ⟨c, rest, rfl, hchain, hnodup, hreach⟩ := h.isCycleFrom_guardCycle hcycle
  have hmetas : (c :: rest ++ [c]).IsChain r.MetaStep :=
    hchain.imp fun a b hab => ((h.step_iff a b).mp hab).2.1
  refine ⟨c, rest, rfl, hnodup, hmetas, h.reach_of_steps hreach, ?_⟩
  -- The step that closes the cycle ends at a guard.
  obtain ⟨a, -, hlast⟩ :=
    TransGen.tail'_iff.mp (Graph.transGen_of_isChain hchain (List.mem_cons_self ..))
  exact ((h.step_iff a c).mp hlast).2.2

theorem guardCycle_of_classify {e : Circularity} (h : classify r t = .error e) :
    (MetaGraph.build r t).guardCycle t = some e.path ∧ e.names = e.path.map r.qualifiedName := by
  unfold classify at h
  split at h
  · cases h
  · dsimp only at h
    split at h
    · cases h
    · split at h
      · next cycle hcycle =>
        cases h
        exact ⟨hcycle, rfl⟩
      · cases h

/-- An annotation type is circular if it leads to a type that leads back to itself and to a
    marked one. -/
theorem exists_circularity_of_reach {c : TypeId} (ht : r.isAnnotation t = true)
    (hreach : ReflTransGen r.MetaStep t c) (hback : TransGen r.MetaStep c c)
    (hmarked : r.LeadsToMarked c) : ∃ e, classify r t = .error e :=
  classify_of_leadsToGuardCycle ht
    (Registry.leadsToGuardCycle_iff.mpr ⟨c, hreach, hback, hmarked⟩)

/-- **A reported circularity is a real one.** Where the verdict on a type is a circularity,
    for its path the following holds.

    1. It is closed: it begins and ends with one type, and up to its end no type stands on
       it twice. Each type on it carries the next one as a meta, which is neither the
       guard marker nor one of the language's own metas.
    2. The first type is reached from the type in question along such metas.
    3. All types on the path are guards, by the marker or by inheritance.
    4. The names that are reported are the qualified names of the path.
    5. The verdict on each type of the path is a circularity too, and so is that on each
       annotation type from which the type in question is reached. -/
theorem reported_circularity {e : Circularity} (h : classify r t = .error e) :
    ∃ c rest, e.path = c :: rest ++ [c] ∧ (c :: rest).Nodup ∧ e.path.IsChain r.MetaStep ∧
      ReflTransGen r.MetaStep t c ∧
      (∀ n ∈ e.path, r.LeadsToMarked n) ∧
      e.names = e.path.map r.qualifiedName ∧
      (∀ n ∈ e.path, ∃ e', classify r n = .error e') ∧
      ∀ u, r.isAnnotation u = true → ReflTransGen r.Carries u t →
        ∃ e', classify r u = .error e' := by
  obtain ⟨hcycle, hnames⟩ := guardCycle_of_classify h
  obtain ⟨c, rest, hpath, hnodup, hchain, hreach, hmarked⟩ :=
    (MetaGraph.build_spans r t).cycle_of_guardCycle hcycle
  have ht : r.isAnnotation t = true := (exists_classify_eq_error_iff.mp ⟨e, h⟩).1
  rw [hpath] at hchain hnames ⊢
  have hback : TransGen r.MetaStep c c :=
    Graph.transGen_of_isChain hchain (List.mem_cons_self ..)
  -- The last type of the path is the first one, so all of them lead back to it.
  have honward : ∀ n ∈ c :: rest ++ [c], TransGen r.MetaStep n c := by
    intro n hn
    rcases List.mem_append.mp hn with hn | hn
    · exact Graph.transGen_of_isChain hchain hn
    · rw [List.mem_singleton.mp hn]
      exact hback
  refine ⟨c, rest, rfl, hnodup, hchain, hreach, ?_, hnames, ?_, ?_⟩
  · intro n hn
    exact hmarked.of_reach (honward n hn).to_reflTransGen
  · intro n hn
    obtain ⟨d, hfirst, -⟩ := TransGen.head'_iff.mp (honward n hn)
    exact exists_circularity_of_reach hfirst.1 (honward n hn).to_reflTransGen hback hmarked
  · intro u hu hcarries
    have hut : ReflTransGen r.MetaStep u t := Registry.reach_of_carries ht hcarries
    exact exists_circularity_of_reach hu (hut.trans hreach) hback hmarked

/-! ## A cycle beside a dead end -/

namespace Sample.Entangled

def outer : TypeId := ⟨34⟩
def entry : TypeId := ⟨35⟩
def leaf : TypeId := ⟨36⟩
def left : TypeId := ⟨37⟩
def right : TypeId := ⟨38⟩

def annotationType (name : String) (metas : List TypeId) : TypeDef Unit where
  name := name
  package := "app"
  kind := .annotationType { metas := metas.map fun t => { type := t } }

/-- The walk from the entry looks at the leaf first, which leads nowhere, and again from
    inside the cycle. -/
def registry : Registry Unit where
  types := Registry.builtinTypes ++ [
    annotationType "Outer" [entry],
    annotationType "Entry" [left, leaf],
    annotationType "Leaf" [.guardMarker],
    annotationType "Left" [.documented, .guardMarker, right],
    annotationType "Right" [left, leaf]]

end Sample.Entangled

open Sample.Entangled in
/-- Neither the entry nor the leaf is part of the cycle that is reported for the entry. The
    types of the cycle are circular, and so is the type that carries the entry. -/
theorem reported_circularity_entangled :
    classify registry entry =
      .error ⟨[left, right, left], ["app.Left", "app.Right", "app.Left"]⟩ ∧
    classify registry leaf = .ok true ∧
    (∃ e, classify registry right = .error e) ∧ ∃ e, classify registry outer = .error e := by
  have hentry : classify registry entry =
      .error ⟨[left, right, left], ["app.Left", "app.Right", "app.Left"]⟩ := by rfl
  obtain ⟨c, rest, -, -, -, -, -, -, hon, habove⟩ := reported_circularity hentry
  have hcarries : registry.Carries outer entry :=
    ⟨⟨{ type := entry }, List.mem_singleton_self _, rfl⟩, by decide, by decide⟩
  exact ⟨hentry, rfl, hon right (by decide), habove outer rfl (.single hcarries)⟩

end AnnotationGuards
