import AnnotationGuards.Proofs.Chain.Linking
import Mathlib.Data.List.Nodup

/-! # How deep links nest

    Nothing in the expansion of an annotation keeps track of the types that it is
    already inside of. That it ends rests on what definitions say: a guard from
    which a cycle of guards can be reached has none.

    * `Expansion`: a call of `expand`, `Expansion.Calls` what its body calls, and
      `Running` the calls that are running at a moment of a link.
    * `Running.nodup_types`: no type occurs twice among them.
    * `Running.length_le`: so there are at most as many as there are types.
    * `exists_running_of_endlessNesting`: a link that runs out of depth has as many
      calls running as it was given depth.
    * `Link.expand_extends`: more depth changes nothing but where it ran out. -/

namespace AnnotationGuards

open Relation

variable {σ α β : Type} {c : LinkContext σ}

/-! ## Calls inside calls -/

/-- A call of `expand` in the course of a link. -/
structure Expansion (σ : Type) where
  depth : Nat
  path : List String
  annotation : Annotation
  /-- Where the link had come when the call began. -/
  start : LinkProgress σ

namespace Expansion

/-- The annotation type that is expanded. -/
def type (x : Expansion σ) : TypeId := x.annotation.type

/-- The body of the call `outer` comes to the call `inner`: it has looked up a
    definition, added the guard's own instance, and gone through the implied
    guards before. -/
def Calls (c : LinkContext σ) (target : Target) (outer inner : Expansion σ) : Prop :=
  ∃ d defined built before after,
    outer.depth = inner.depth + 1 ∧
    inner.path = outer.path ++ ["@" ++ c.registry.simpleName outer.type] ∧
    (LinkM.definitionOf c outer.type).run outer.start = (.ok (some d), defined) ∧
    (Link.addOwn c target inner.path outer.annotation d).run defined = (.ok (), built) ∧
    d.implied = before ++ inner.annotation :: after ∧
    (before.forM (Link.expand c target inner.depth inner.path)).run built = (.ok (), inner.start)

/-- The link of a slot comes to the call, having gone through the annotations
    before. -/
def Begins (c : LinkContext σ) (guards : SlotGuards) (depth : Nat) (start : LinkProgress σ)
    (x : Expansion σ) : Prop :=
  x.depth = depth ∧ x.path = [] ∧ ∃ before after,
    guards.annotations = before ++ x.annotation :: after ∧
    (before.forM (Link.expand c guards.target depth [])).run start = (.ok (), x.start)

end Expansion

/-- The calls of `expand` that are running at a moment of the link of a slot, the
    innermost first. -/
inductive Running (c : LinkContext σ) (guards : SlotGuards) (depth : Nat) (start : LinkProgress σ) :
    List (Expansion σ) → Prop
  | outermost {x : Expansion σ} (h : Expansion.Begins c guards depth start x) :
    Running c guards depth start [x]
  | nested {outer inner : Expansion σ} {rest : List (Expansion σ)}
    (h : Running c guards depth start (outer :: rest))
    (hcall : Expansion.Calls c guards.target outer inner) :
    Running c guards depth start (inner :: outer :: rest)

/-! ## What calls inside calls say -/

/-- From tables that agree with the registry, a call leads from a guard to one
    that it is composed of, and the tables still agree. -/
theorem Expansion.Calls.implies {target : Target} {outer inner : Expansion σ}
    (h : Expansion.Calls c target outer inner) (hstart : outer.start.Coherent c) :
    c.registry.Implies outer.type inner.type ∧ inner.start.Coherent c := by
  obtain ⟨d, defined, built, before, after, -, -, hdefinition, hown, himplied, hbefore⟩ := h
  obtain ⟨hresult, hdefined⟩ := (LinkM.performs_definitionOf outer.type).of_run hstart hdefinition
  obtain ⟨-, hbuilt⟩ := (Link.performs_addOwn _ _ _ d).of_run hdefined hown
  obtain ⟨-, hinner⟩ :=
    (LinkM.performs_forM (Link.performs_expand target _ inner.path) before).of_run hbuilt hbefore
  have hd : c.registry.definition c.config outer.type = .ok (some d) := by
    cases hdef : c.registry.definition c.config outer.type with
    | error e =>
      rw [hdef] at hresult
      cases hresult
    | ok found =>
      rw [hdef] at hresult
      cases hresult
      rfl
  obtain ⟨hguard, hd', -⟩ := Registry.definition_eq_some hd
  have hmem : inner.annotation ∈ c.registry.impliedOf outer.type := by
    rw [← hd', himplied]
    simp
  exact ⟨⟨hguard, inner.annotation, hmem, rfl⟩, hinner⟩

namespace Running

variable {guards : SlotGuards} {depth : Nat} {start : LinkProgress σ}
  {stack : List (Expansion σ)}

theorem coherent (h : Running c guards depth start stack) (hstart : start.Coherent c) :
    ∀ x ∈ stack, x.start.Coherent c := by
  induction h with
  | outermost hbegins =>
    intro y hy
    rw [List.mem_singleton.mp hy]
    obtain ⟨-, -, before, after, -, hbefore⟩ := hbegins
    exact ((LinkM.performs_forM (Link.performs_expand guards.target depth []) before).of_run
      hstart hbefore).2
  | nested h hcall ih =>
    intro y hy
    rcases List.mem_cons.mp hy with rfl | hy
    · exact (hcall.implies (ih _ (List.mem_cons_self ..))).2
    · exact ih y hy

/-- Each running call is for a guard that the one around it is composed of. -/
theorem isChain (h : Running c guards depth start stack) (hstart : start.Coherent c) :
    stack.IsChain fun inner outer => c.registry.Implies outer.type inner.type := by
  induction h with
  | outermost _ => exact List.isChain_singleton _
  | nested h hcall ih =>
    have houter := h.coherent hstart _ (List.mem_cons_self ..)
    exact List.isChain_cons_cons.mpr ⟨(hcall.implies houter).1, ih⟩

/-- **No type is being expanded twice at a time**: an inner one is composed into
    all outer ones, and composition never leads back. -/
theorem nodup_types (h : Running c guards depth start stack) (hstart : start.Coherent c) :
    (stack.map Expansion.type).Nodup := by
  -- Composition along the stack is transitive, so it holds between any two calls.
  let inside : Expansion σ → Expansion σ → Prop :=
    fun inner outer => TransGen c.registry.Implies outer.type inner.type
  have hchain : stack.IsChain inside :=
    (h.isChain hstart).imp fun _ _ himplies => TransGen.single himplies
  have htrans : IsTrans (Expansion σ) inside := ⟨fun _ _ _ hxy hyz => hyz.trans hxy⟩
  have hpairwise : stack.Pairwise inside := hchain.pairwise
  rw [List.Nodup, List.pairwise_map]
  refine hpairwise.imp ?_
  intro inner outer hinside hsame
  have hback : TransGen c.registry.Implies outer.type inner.type := hinside
  rw [hsame] at hback
  exact Registry.not_transGen_implies c.registry outer.type hback

/-- Only an annotation that no call surrounds can be of an unregistered type. -/
theorem registered (h : Running c guards depth start stack) (hstart : start.Coherent c)
    (hnested : 1 < stack.length) : ∀ x ∈ stack, x.type ∈ c.registry.ids := by
  have hguard : ∀ x ∈ stack, c.registry.isGuard x.type = true := by
    induction h with
    | outermost _ => simp at hnested
    | @nested outer inner rest h hcall ih =>
      obtain ⟨himplies, -⟩ := hcall.implies (h.coherent hstart outer (List.mem_cons_self ..))
      intro x hx
      -- The inner one is a guard that a guard is composed of, and so on outwards.
      rcases List.mem_cons.mp hx with rfl | hx
      · exact himplies.isGuard
      · cases rest with
        | nil =>
          rw [List.mem_singleton.mp hx]
          exact himplies.1
        | cons _ _ => exact ih (by simp) x hx
  intro x hx
  exact Registry.mem_ids_of_isAnnotation (Registry.isAnnotation_of_isGuard (hguard x hx))

/-- **Links nest at most as deep as there are types.** -/
theorem length_le (h : Running c guards depth start stack) (hstart : start.Coherent c)
    (hsize : 0 < c.registry.size) : stack.length ≤ c.registry.size := by
  by_cases hnested : 1 < stack.length
  · have hsub : stack.map Expansion.type ⊆ c.registry.ids := by
      intro t ht
      obtain ⟨x, hx, rfl⟩ := List.mem_map.mp ht
      exact h.registered hstart hnested x hx
    have hle := ((h.nodup_types hstart).subperm hsub).length_le
    simpa [Registry.ids] using hle
  · omega

end Running

/-! ## Running out of depth -/

/-- A guard's own part does not nest. -/
theorem Link.contributeOwn_ne_endlessNesting (target : Target) (path : List String)
    (a : Annotation) (d : GuardDefinition) :
    (contributeOwn c target path a d).result ≠ .error (.aborted .endlessNesting) := by
  intro h
  rcases contributeOwn_cases c target path a d with
    ⟨hok, -⟩ | ⟨e, herror⟩ | ⟨payload, hpanic, -⟩ | ⟨htext, -⟩
  · rw [hok] at h; cases h
  · rw [herror] at h; cases h
  · rw [hpanic] at h; cases h
  · rw [htext] at h; cases h

/-- A call that runs out of depth has called itself all the way down. -/
theorem Running.exists_of_endlessNesting {guards : SlotGuards} {depth : Nat}
    {start : LinkProgress σ} (hstart : start.Coherent c) (x : Expansion σ)
    (rest : List (Expansion σ)) (h : Running c guards depth start (x :: rest))
    {p' : LinkProgress σ}
    (hrun : (Link.expand c guards.target x.depth x.path x.annotation).run x.start =
      (.error (.aborted .endlessNesting), p')) :
    ∃ stack, Running c guards depth start stack ∧ stack.length = x.depth + rest.length + 1 := by
  obtain ⟨fuel, path, a, p⟩ := x
  -- Each level of depth that is used up is one more running call.
  induction fuel generalizing path a p rest with
  | zero => exact ⟨_, h, by simp⟩
  | succ fuel ih =>
    have hp : p.Coherent c := h.coherent hstart _ (List.mem_cons_self ..)
    unfold Link.expand at hrun
    rcases LinkM.run_bind_cases hrun with ⟨e, hdefinition, he⟩ | ⟨found, defined, hdefinition, hrun⟩
    · -- A definition is there or faulty, whatever the depth.
      obtain ⟨hresult, -⟩ := (LinkM.performs_definitionOf a.type).of_run hp hdefinition
      cases he
      cases hdef : c.registry.definition c.config a.type with
      | error e' => rw [hdef] at hresult; cases hresult
      | ok found => rw [hdef] at hresult; cases hresult
    · cases found with
      | none => cases hrun
      | some d =>
        have hdefined := ((LinkM.performs_definitionOf a.type).of_run hp hdefinition).2
        rcases LinkM.run_bind_cases hrun with ⟨e, hown, he⟩ | ⟨_, built, hown, himplied⟩
        · -- The guard's own part has faults of its own, but this is none of them.
          cases he
          have hresult := ((Link.performs_addOwn _ _ _ d).of_run hdefined hown).1
          exact absurd hresult (Link.contributeOwn_ne_endlessNesting _ _ _ d)
        · -- So it is one of the implied guards that has run out of depth.
          obtain ⟨before, b, after, q, hsplit, hbefore, hb⟩ :=
            LinkM.run_forM_eq_error d.implied himplied
          have hcall : Expansion.Calls c guards.target ⟨fuel + 1, path, a, p⟩
              ⟨fuel, path ++ ["@" ++ c.registry.simpleName a.type], b, q⟩ :=
            ⟨d, defined, built, before, after, rfl, rfl, hdefinition, hown, hsplit, hbefore⟩
          obtain ⟨stack, hstack, hlength⟩ := ih (⟨fuel + 1, path, a, p⟩ :: rest) _ b q
            (.nested h hcall) hb
          refine ⟨stack, hstack, ?_⟩
          simp only [List.length_cons] at hlength ⊢
          omega

namespace Link

/-- What all annotations of a slot contribute, with a bound on the depth of each. -/
def expandWithin (c : LinkContext σ) (guards : SlotGuards) (depth : Nat) : LinkM σ Unit :=
  guards.annotations.forM (expand c guards.target depth [])

theorem exists_running_of_endlessNesting {guards : SlotGuards} {depth : Nat}
    {start p' : LinkProgress σ} (hstart : start.Coherent c)
    (h : (expandWithin c guards depth).run start = (.error (.aborted .endlessNesting), p')) :
    ∃ stack, Running c guards depth start stack ∧ stack.length = depth + 1 := by
  obtain ⟨before, a, after, q, hsplit, hbefore, ha⟩ :=
    LinkM.run_forM_eq_error guards.annotations h
  have hbegins : Expansion.Begins c guards depth start ⟨depth, [], a, q⟩ :=
    ⟨rfl, rfl, before, after, hsplit, hbefore⟩
  exact Running.exists_of_endlessNesting hstart ⟨depth, [], a, q⟩ [] (.outermost hbegins) ha

/-- As many levels as there are types are enough. -/
theorem expandWithin_ne_endlessNesting (guards : SlotGuards) {depth : Nat}
    {start : LinkProgress σ} (hstart : start.Coherent c) (hsize : 0 < c.registry.size)
    (hdepth : c.registry.size ≤ depth) :
    ((expandWithin c guards depth).run start).1 ≠ .error (.aborted .endlessNesting) := by
  intro h
  obtain ⟨stack, hstack, hlength⟩ := exists_running_of_endlessNesting hstart (Prod.ext h rfl)
  have hle := hstack.length_le hstart hsize
  omega

/-- What annotations contribute does not run out of depth either. -/
theorem forM_contribute_ne_endlessNesting (target : Target) (hsize : 0 < c.registry.size)
    {depth : Nat} (hdepth : c.registry.size ≤ depth) (items : List Annotation) :
    (items.forM (contribute c target depth [])).result ≠ .error (.aborted .endlessNesting) := by
  obtain ⟨p, hrun, -⟩ := LinkM.performs_forM (performs_expand target depth []) items _
    (LinkProgress.coherent_empty c)
  have hends := expandWithin_ne_endlessNesting ⟨target, items⟩ (LinkProgress.coherent_empty c)
    hsize hdepth
  have hsame : (expandWithin c ⟨target, items⟩ depth).run
      { definitions := {}, instantiators := [] } = (_, p) := hrun
  rw [hsame] at hends
  exact hends

end Link

/-! ## More depth -/

namespace LinkM

/-- The part `m'` does what `m` does, except where `m` runs out of depth. -/
def Extends (m' m : LinkM σ α) : Prop :=
  ∀ p result p', m.run p = (result, p') → result ≠ .error (.aborted .endlessNesting) →
    m'.run p = (result, p')

theorem Extends.refl (m : LinkM σ α) : Extends m m :=
  fun _ _ _ h _ => h

theorem Extends.bind {m' m : LinkM σ α} {next' next : α → LinkM σ β} (hm : Extends m' m)
    (hnext : ∀ a, Extends (next' a) (next a)) : Extends (m' >>= next') (m >>= next) := by
  intro p result p' hrun hne
  rcases run_bind_cases hrun with ⟨e, hfirst, rfl⟩ | ⟨a, q, hfirst, hrest⟩
  · have hfirst' : m'.run p = (.error e, p') := by
      apply hm p _ p' hfirst
      intro he
      cases he
      exact hne rfl
    exact run_bind_of_error hfirst' next'
  · have hfirst' : m'.run p = (.ok a, q) := by
      apply hm p _ q hfirst
      intro he
      cases he
    rw [run_bind_of_ok hfirst']
    exact hnext a q result p' hrest hne

theorem Extends.forM {ι : Type} {step' step : ι → LinkM σ Unit}
    (h : ∀ i, Extends (step' i) (step i)) (items : List ι) :
    Extends (items.forM step') (items.forM step) := by
  induction items with
  | nil => exact Extends.refl _
  | cons i rest ih => exact (h i).bind fun _ => ih

end LinkM

namespace Link

/-- **More depth changes nothing** but where the depth ran out. -/
theorem expand_extends (target : Target) {depth depth' : Nat} (hle : depth ≤ depth')
    (path : List String) (a : Annotation) :
    LinkM.Extends (expand c target depth' path a) (expand c target depth path a) := by
  induction depth generalizing depth' path a with
  | zero =>
    intro p result p' hrun hne
    cases hrun
    exact absurd rfl hne
  | succ depth ih =>
    obtain ⟨depth', rfl⟩ : ∃ k, depth' = k + 1 := ⟨depth' - 1, by omega⟩
    unfold expand
    refine (LinkM.Extends.refl _).bind fun found => ?_
    cases found with
    | none => exact LinkM.Extends.refl _
    | some d =>
      refine (LinkM.Extends.refl _).bind fun _ => ?_
      exact LinkM.Extends.forM (ih (by omega) _) d.implied

/-- A slot is expanded in the same way whatever the bound on the depth, as long as
    it allows for as many levels as there are types. -/
theorem expandWithin_run_eq (guards : SlotGuards) {depth : Nat} {start : LinkProgress σ}
    (hstart : start.Coherent c) (hsize : 0 < c.registry.size)
    (hdepth : c.registry.size ≤ depth) :
    (expandWithin c guards depth).run start = (expandAll c guards).run start := by
  -- With the least such bound the link does not run out of depth, and more depth
  -- changes nothing about a link that does not.
  have hleast := expandWithin_ne_endlessNesting guards hstart hsize
    (Nat.le_refl c.registry.size)
  rcases hrun : (expandWithin c guards c.registry.size).run start with ⟨result, p'⟩
  rw [hrun] at hleast
  have hmore : ∀ {depth'}, c.registry.size ≤ depth' →
      (expandWithin c guards depth').run start = (result, p') := by
    intro depth' hle
    exact LinkM.Extends.forM (fun a => expand_extends guards.target hle [] a)
      guards.annotations start result p' hrun hleast
  have hall : (expandAll c guards).run start = (result, p') := hmore (Nat.le_succ _)
  rw [hmore hdepth, hall]

end Link

end AnnotationGuards
