import AnnotationGuards.Proofs.Chain.Checks
import AnnotationGuards.Proofs.Chain.Nesting

/-! # Composed guards

    A guard without a marker of its own contributes what the guards contribute that
    it is composed of, and stands above them in the paths of their instances. So in
    a list of annotations it may be replaced by these guards: the link comes to the
    same, but for these paths.

    * `GuardInstance.below`: an instance that stands below more annotations.
    * `Link.contribute_below`: what is contributed below more annotations.
    * `Link.contribute_of_unmarked`: what a composed guard contributes.
    * `Link.outcome_through`: what becomes of a link, with the guard and with those
      that it is composed of.
    * `runChain_below`: what becomes of a check. -/

namespace AnnotationGuards

variable {σ : Type} {c : LinkContext σ} {target : Target} {above : List String}

/-! ## Further down -/

/-- The instance below more annotations. -/
def GuardInstance.below (above : List String) (g : GuardInstance σ) : GuardInstance σ :=
  { g with path := above ++ g.path }

namespace Contribution

variable {ι α β γ : Type}

/-- The part of a link with its instances below more annotations. -/
def below (above : List String) (k : Contribution σ α) : Contribution σ α :=
  { k with instances := k.instances.map (GuardInstance.below above) }

theorem below_bind (k : Contribution σ α) (next : α → Contribution σ β) :
    (k >>= next).below above = k.below above >>= fun a => (next a).below above := by
  cases hk : k.result with
  | error e =>
    have hbelow : (k.below above).result = .error e := hk
    rw [bind_of_error hk, bind_of_error hbelow]
    rfl
  | ok a =>
    have hbelow : (k.below above).result = .ok a := hk
    rw [bind_of_ok hk, bind_of_ok hbelow]
    simp [below]

theorem below_of_no_instances {k : Contribution σ α} (h : k.instances = []) :
    k.below above = k := by
  obtain ⟨result, calls, instances⟩ := k
  have hnil : instances = [] := h
  rw [hnil]
  rfl

theorem below_forM {step step' : ι → Contribution σ Unit}
    (h : ∀ i, step' i = (step i).below above) (items : List ι) :
    items.forM step' = (items.forM step).below above := by
  induction items with
  | nil => rfl
  | cons first rest ih =>
    show (step' first >>= fun _ => rest.forM step') =
      (step first >>= fun _ => rest.forM step).below above
    rw [below_bind, h first, ih]

theorem below_ofResult (result : Except GuardError α) :
    (ofResult result : Contribution σ α).below above = ofResult result := by
  cases result <;> exact below_of_no_instances rfl

theorem below_ofText (text : Option String) :
    (ofText text : Contribution σ String).below above = ofText text := by
  cases text <;> exact below_of_no_instances rfl

theorem below_ofRun (run : Except Panic (Except GuardError α) × List Call) :
    (ofRun run : Contribution σ α).below above = ofRun run := by
  rcases run with ⟨_ | (_ | _), _⟩ <;> exact below_of_no_instances rfl

/-! ## Lists one after the other -/

theorem bind_assoc (k : Contribution σ α) (next : α → Contribution σ β)
    (last : β → Contribution σ γ) : k >>= next >>= last = k >>= fun a => next a >>= last := by
  cases hk : k.result with
  | error e =>
    have hbind : (k >>= next).result = .error e := by rw [bind_of_error hk]
    rw [bind_of_error hbind, bind_of_error hk, bind_of_error hk]
  | ok a =>
    cases hnext : (next a).result with
    | error e =>
      have hbind : (k >>= next).result = .error e := by rw [bind_of_ok hk, hnext]
      rw [bind_of_error hbind, bind_of_ok hk, bind_of_ok hk, bind_of_error hnext]
    | ok b =>
      have hbind : (k >>= next).result = .ok b := by rw [bind_of_ok hk, hnext]
      rw [bind_of_ok hbind, bind_of_ok hk, bind_of_ok hk, bind_of_ok hnext]
      simp only [List.append_assoc]

theorem forM_append (step : ι → Contribution σ Unit) (items rest : List ι) :
    (items ++ rest).forM step = items.forM step >>= fun _ => rest.forM step := by
  induction items with
  | nil => rfl
  | cons first items ih =>
    show (step first >>= fun _ => (items ++ rest).forM step) =
      (step first >>= fun _ => items.forM step) >>= fun _ => rest.forM step
    rw [ih, bind_assoc]

end Contribution

namespace Link

theorem contributeInstance_below (path : List String) (a : Annotation) (d : GuardDefinition)
    (marking : Marking) :
    contributeInstance c target (above ++ path) a d marking =
      (contributeInstance c target path a d marking).below above := by
  simp only [contributeInstance, Contribution.below_bind, Contribution.below_ofResult,
    Contribution.below_ofRun, Contribution.below_ofText]
  rfl

theorem contributeOwn_below (path : List String) (a : Annotation) (d : GuardDefinition) :
    contributeOwn c target (above ++ path) a d =
      (contributeOwn c target path a d).below above := by
  unfold contributeOwn
  cases d.marking with
  | none => exact (Contribution.below_of_no_instances rfl).symm
  | some marking => exact contributeInstance_below path a d marking

/-- What is above an annotation plays no part in what it contributes, but for the
    paths of its instances. -/
theorem contribute_below (depth : Nat) (path : List String) (a : Annotation) :
    contribute c target depth (above ++ path) a =
      (contribute c target depth path a).below above := by
  induction depth generalizing path a with
  | zero => rfl
  | succ depth ih =>
    unfold contribute
    rw [Contribution.below_bind, Contribution.below_ofResult]
    congr 1
    funext found
    cases found with
    | none => exact (Contribution.below_of_no_instances rfl).symm
    | some d =>
      dsimp only
      rw [Contribution.below_bind, List.append_assoc, contributeOwn_below,
        Contribution.below_forM (ih _) d.implied]

end Link

/-! ## Depth -/

/-- Parts that do the same, but for running out of depth, contribute the same. -/
theorem LinkM.Performs.eq_of_extends {α : Type} {m m' : LinkM σ α} {k k' : Contribution σ α}
    (hm : Performs c m k) (hm' : Performs c m' k') (hmore : Extends m' m)
    (hends : k.result ≠ .error (.aborted .endlessNesting)) : k' = k := by
  obtain ⟨p, hrun, -, hcalls, hinstances⟩ := hm _ (LinkProgress.coherent_empty c)
  obtain ⟨p', hrun', -, hcalls', hinstances'⟩ := hm' _ (LinkProgress.coherent_empty c)
  have hsame := hmore _ _ p hrun hends
  rw [hrun'] at hsame
  obtain ⟨hresult, rfl⟩ := Prod.mk.inj hsame
  obtain ⟨result, calls, instances⟩ := k
  obtain ⟨result', calls', instances'⟩ := k'
  simp only [List.nil_append] at hresult hcalls hcalls' hinstances hinstances'
  rw [hresult, ← hcalls, ← hcalls', ← hinstances, ← hinstances']

namespace Link

/-- As many levels as there are types are enough, and more change nothing. -/
theorem forM_contribute_of_le (target : Target) (hsize : 0 < c.registry.size) {depth : Nat}
    (hdepth : c.registry.size ≤ depth) (items : List Annotation) :
    items.forM (contribute c target depth []) =
      items.forM (contribute c target c.registry.size []) := by
  have hleast := LinkM.performs_forM (performs_expand (c := c) target c.registry.size []) items
  have hmore := LinkM.performs_forM (performs_expand (c := c) target depth []) items
  apply hleast.eq_of_extends hmore
  · exact LinkM.Extends.forM (expand_extends target hdepth []) items
  · exact forM_contribute_ne_endlessNesting target hsize (Nat.le_refl _) items

/-! ## A composed guard and what it is composed of -/

/-- The entry of an annotation in a path. -/
def pathEntry (r : Registry σ) (a : Annotation) : String := "@" ++ r.simpleName a.type

variable {p : Annotation} {d : GuardDefinition}

/-- **A guard without a marker contributes what it is composed of**, one annotation
    further down. -/
theorem contribute_of_unmarked (hsize : 0 < c.registry.size)
    (hdef : c.registry.definition c.config p.type = .ok (some d)) (hmarking : d.marking = none) :
    contribute c target (c.registry.size + 1) [] p =
      (d.implied.forM (contribute c target (c.registry.size + 1) [])).below
        [pathEntry c.registry p] := by
  have hown : contributeOwn c target [pathEntry c.registry p] p d = pure () := by
    unfold contributeOwn
    rw [hmarking]
  have hbelow : d.implied.forM (contribute c target c.registry.size [pathEntry c.registry p]) =
      (d.implied.forM (contribute c target c.registry.size [])).below [pathEntry c.registry p] := by
    refine Contribution.below_forM (fun a => ?_) d.implied
    show contribute c target c.registry.size ([pathEntry c.registry p] ++ []) a = _
    exact contribute_below c.registry.size [] a
  rw [contribute_of_definition hdef, forM_contribute_of_le target hsize (Nat.le_succ _), ← hbelow]
  show (contributeOwn c target [pathEntry c.registry p] p d >>= _) = _
  rw [hown]
  rfl

/-- A link that ends with a fault comes to the same whatever was in the chain. -/
theorem settle_error (chain : List (GuardInstance σ)) (e : LinkFault) :
    settle c chain (.error e) = settle c [] (.error e) := by
  rcases e with e | (payload | _ | _) <;> rfl

/-- **Replacing a composed guard by what it is composed of**: either both links end
    with the same fault, or both go through, to the same chains but for the paths of
    what came through the guard. -/
theorem outcome_through (hsize : 0 < c.registry.size)
    (hdef : c.registry.definition c.config p.type = .ok (some d)) (hmarking : d.marking = none)
    (target : Target) (before after : List Annotation) :
    (∃ e, outcome c ⟨target, before ++ p :: after⟩ = settle c [] (.error e) ∧
      outcome c ⟨target, before ++ d.implied ++ after⟩ = settle c [] (.error e)) ∨
    ∃ first through last,
      outcome c ⟨target, before⟩ = .ok (.linked first) ∧
      outcome c ⟨target, d.implied⟩ = .ok (.linked through) ∧
      outcome c ⟨target, after⟩ = .ok (.linked last) ∧
      outcome c ⟨target, before ++ p :: after⟩ = .ok (.linked
        (first ++ through.map (GuardInstance.below [pathEntry c.registry p]) ++ last)) ∧
      outcome c ⟨target, before ++ d.implied ++ after⟩ =
        .ok (.linked (first ++ through ++ last)) := by
  let step := contribute c target (c.registry.size + 1) []
  have hwith : contributeAll c ⟨target, before ++ p :: after⟩ =
      before.forM step >>= fun _ =>
        (d.implied.forM step).below [pathEntry c.registry p] >>= fun _ => after.forM step := by
    show (before ++ p :: after).forM step = _
    rw [Contribution.forM_append, ← contribute_of_unmarked hsize hdef hmarking]
    rfl
  have hwithout : contributeAll c ⟨target, before ++ d.implied ++ after⟩ =
      before.forM step >>= fun _ => d.implied.forM step >>= fun _ => after.forM step := by
    show (before ++ d.implied ++ after).forM step = _
    rw [List.append_assoc, Contribution.forM_append, Contribution.forM_append]
  unfold outcome
  rw [hwith, hwithout]
  show _ ∨ ∃ first through last,
    settle c (before.forM step).instances (before.forM step).result = _ ∧
    settle c (d.implied.forM step).instances (d.implied.forM step).result = _ ∧
    settle c (after.forM step).instances (after.forM step).result = _ ∧ _
  -- The first of the three parts that ends with a fault decides, on either side.
  generalize before.forM step = k₁
  generalize d.implied.forM step = k₂
  generalize after.forM step = k₃
  cases h₁ : k₁.result with
  | error e =>
    rw [Contribution.bind_of_error h₁, Contribution.bind_of_error h₁]
    exact Or.inl ⟨e, settle_error _ e, settle_error _ e⟩
  | ok _ =>
    rw [Contribution.bind_of_ok h₁, Contribution.bind_of_ok h₁]
    cases h₂ : k₂.result with
    | error e =>
      have hbelow : (k₂.below [pathEntry c.registry p]).result = .error e := h₂
      rw [Contribution.bind_of_error h₂, Contribution.bind_of_error hbelow]
      exact Or.inl ⟨e, settle_error _ e, settle_error _ e⟩
    | ok _ =>
      have hbelow : (k₂.below [pathEntry c.registry p]).result = .ok () := h₂
      rw [Contribution.bind_of_ok h₂, Contribution.bind_of_ok hbelow]
      cases h₃ : k₃.result with
      | error e => exact Or.inl ⟨e, settle_error _ e, settle_error _ e⟩
      | ok _ =>
        refine Or.inr ⟨k₁.instances, k₂.instances, k₃.instances, rfl, rfl, rfl, ?_, ?_⟩
        · rw [List.append_assoc]
          rfl
        · rw [List.append_assoc]
          rfl

end Link

/-! ## Checks -/

/-- The reports of the same value and the same guard, of which the first has one more
    entry in front of its path. -/
structure Violation.Below (entry : String) (report report' : Violation) : Prop where
  guardMessage_eq : report.guardMessage = report'.guardMessage
  target_eq : report.target = report'.target
  value_eq : report.value = report'.value
  chain_eq : report.chain = entry :: report'.chain

/-- Checks come to the same, or to the same violation, of which the first has one more
    entry in front of its path. -/
inductive SameCheck {ε : Type} (entry : String) :
    Except ε CheckResult → Except ε CheckResult → Prop
  | same (outcome : Except ε CheckResult) : SameCheck entry outcome outcome
  | below {report report' : Violation} (h : report.Below entry report') :
    SameCheck entry (.ok (.error (.violation report))) (.ok (.error (.violation report')))

theorem SameCheck.mapError {ε ε' : Type} {entry : String} {outcome outcome' : Except ε CheckResult}
    (h : SameCheck entry outcome outcome') (f : ε → ε') :
    SameCheck entry (outcome.mapError f) (outcome'.mapError f) := by
  cases h with
  | same => exact .same _
  | below h => exact .below h

namespace GuardInstance

variable {g : GuardInstance σ} {v : Value} {entry : String}

theorem below_violation (g : GuardInstance σ) (v : Value) :
    ((g.below [entry]).violation v).Below entry (g.violation v) :=
  ⟨rfl, rfl, rfl, rfl⟩

/-- Where a guard stands plays no part in what it makes of a value, but for its
    report. -/
theorem below_check (g : GuardInstance σ) (above : List String) (v : Value) :
    (g.below above).check v = g.check v ∨
    ∃ calls, g.check v = (.ok (.error (.violation (g.violation v))), calls) ∧
      (g.below above).check v =
        (.ok (.error (.violation ((g.below above).violation v))), calls) := by
  unfold check
  by_cases hskip : (g.skipsNull && v.isNull) = true
  · left
    rw [if_pos hskip]
    exact if_pos hskip
  · have hskip' : ¬ ((g.below above).skipsNull && v.isNull) = true := hskip
    have hrun : (g.below above).test.run (g.below above).handler v = g.test.run g.handler v := rfl
    rw [if_neg hskip, if_neg hskip', hrun]
    rcases g.test.run g.handler v with ⟨payload | (message | verdict), calls⟩
    · exact Or.inl rfl
    · exact Or.inl rfl
    · cases verdict with
      | true => exact Or.inl rfl
      | false => exact Or.inr ⟨calls, rfl, rfl⟩

end GuardInstance

/-- The check of a chain comes to the same if some of its instances stand one
    annotation further down. -/
theorem runChain_below {entry : String} {chain chain' : List (GuardInstance σ)}
    (h : List.Forall₂ (fun g g' => g = g' ∨ g = g'.below [entry]) chain chain') (v : Value) :
    SameCheck entry (runChain chain v).1 (runChain chain' v).1 := by
  induction h with
  | nil => exact .same _
  | @cons g g' chain chain' hfirst _ ih =>
    have hcheck : g.check v = g'.check v ∨
        ∃ calls, g'.check v = (.ok (.error (.violation (g'.violation v))), calls) ∧
          g.check v = (.ok (.error (.violation ((g'.below [entry]).violation v))), calls) := by
      rcases hfirst with rfl | rfl
      · exact Or.inl rfl
      · exact g'.below_check [entry] v
    unfold runChain
    rcases hcheck with hsame | ⟨calls, hg', hg⟩
    · rw [hsame]
      rcases g'.check v with ⟨payload | (e | _), calls⟩
      · exact .same _
      · exact .same _
      · exact ih
    · rw [hg, hg']
      exact .below (g'.below_violation v)

end AnnotationGuards
