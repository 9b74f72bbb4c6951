import AnnotationGuards.Proofs.Realm.Nesting
import AnnotationGuards.Realm.Interleaving
import Mathlib.Data.List.Induction

/-! # Realms are isolated

    A realm is reached through handles. They share what it works out, they outlive its
    entry in the arena, and its scope may be used again. Still, what a program does with
    the arena and with other realms leaves no trace on it.

    * `Realms.realm?_step`: a step changes the realm behind a handle only by a call
      through this very handle.
    * `Realms.recordsIn_trace`: along a run, the calls through a handle look like calls on
      the realm by itself.
    * `ArenaStep.IsLive`: a realm was the last one to be inserted under a scope, and the
      scope has not been unloaded since.
    * `Realms.get?_after_iff`: the arena finds just the live realm.
    * **`Realms.isolated`**: both. -/

namespace AnnotationGuards

variable {σ : Type} {rs : Realms σ} {realm : Realm σ} {handle : RealmHandle}
  {step : ArenaStep σ} {steps : List (ArenaStep σ)} {scope : ScopeId}

/-! ## Handles -/

namespace ArenaStep

/-- Whether the step inserts a realm. -/
def inserts : ArenaStep σ → Bool
  | .insert _ => true
  | .get _ | .unload _ | .call _ _ => false

/-- The handle of the realm that is inserted after these steps: realms are numbered in the
    order of their insertion. -/
def handleAfter (steps : List (ArenaStep σ)) : RealmHandle := ⟨steps.countP inserts⟩

end ArenaStep

open ArenaStep

namespace Realms

@[simp] theorem realms_insert (rs : Realms σ) (realm : Realm σ) :
    (rs.insert realm).2.realms = rs.realms ++ [realm] := rfl

@[simp] theorem realms_unload (rs : Realms σ) (scope : ScopeId) :
    (rs.unload scope).2.realms = rs.realms := rfl

@[simp] theorem realms_update (rs : Realms σ) (handle : RealmHandle) (realm : Realm σ) :
    (rs.update handle realm).realms = rs.realms.set handle.index realm := rfl

@[simp] theorem live_update (rs : Realms σ) (handle : RealmHandle) (realm : Realm σ) :
    (rs.update handle realm).live = rs.live := rfl

theorem step_call_of_none {call : RealmCall} (h : rs.realm? handle = none) :
    rs.step (.call handle call) = (.noRealm, rs) := by
  simp only [Realms.step, h]

theorem step_call_of_some {call : RealmCall} (h : rs.realm? handle = some realm) :
    rs.step (.call handle call) =
      (.called (realm.perform call).record, rs.update handle (realm.perform call).realm) := by
  simp only [Realms.step, h]

theorem length_step (rs : Realms σ) (step : ArenaStep σ) :
    (rs.step step).2.realms.length = rs.realms.length + if step.inserts then 1 else 0 := by
  cases step with
  | insert realm => simp [Realms.step, inserts]
  | get scope => simp [Realms.step, inserts]
  | unload scope => simp [Realms.step, inserts]
  | call handle call =>
    cases h : rs.realm? handle with
    | none => simp [step_call_of_none h, inserts]
    | some realm => simp [step_call_of_some h, inserts]

theorem length_after (rs : Realms σ) (steps : List (ArenaStep σ)) :
    (rs.after steps).realms.length = rs.realms.length + steps.countP inserts := by
  induction steps generalizing rs with
  | nil => rfl
  | cons step rest ih =>
    show ((rs.step step).2.after rest).realms.length = _
    rw [ih, length_step, List.countP_cons]
    omega

/-- Behind the handle of a realm that is not yet inserted there is none. -/
theorem realm?_handleAfter (steps : List (ArenaStep σ)) :
    (Realms.after {} steps).realm? (handleAfter steps) = none := by
  have hlength := length_after ({} : Realms σ) steps
  refine List.getElem?_eq_none ?_
  show _ ≤ steps.countP inserts
  rw [hlength]
  simp

theorem realm?_insert_handleAfter (steps : List (ArenaStep σ)) (realm : Realm σ) :
    ((Realms.after {} steps).step (.insert realm)).2.realm? (handleAfter steps) = some realm := by
  have hlength := length_after ({} : Realms σ) steps
  show ((Realms.after {} steps).realms ++ [realm])[steps.countP inserts]? = some realm
  have hindex : steps.countP inserts = (Realms.after {} steps).realms.length := by
    rw [hlength]
    simp
  rw [hindex, List.getElem?_concat_length]

/-! ## One realm among others -/

/-- **One step** changes the realm behind a handle by the call that it makes through the
    handle, if it makes one, and not otherwise. -/
theorem realm?_step (h : rs.realm? handle = some realm) (step : ArenaStep σ) :
    (rs.step step).2.realm? handle = some (realm.after (handle.callOf? step).toList) := by
  have hlt : handle.index < rs.realms.length := (List.getElem?_eq_some_iff.mp h).1
  cases step with
  | insert added =>
    show (rs.realms ++ [added])[handle.index]? = _
    rw [List.getElem?_append_left hlt]
    exact h
  | get scope => exact h
  | unload scope => exact h
  | call other call =>
    cases hother : rs.realm? other with
    | none =>
      -- The handle has a realm behind it, so it is another one.
      have hne : other ≠ handle := by
        rintro rfl
        rw [h] at hother
        cases hother
      rw [step_call_of_none hother]
      simpa [RealmHandle.callOf?, hne, Realm.after] using h
    | some called =>
      rw [step_call_of_some hother]
      show (rs.realms.set other.index _)[handle.index]? = _
      by_cases hsame : other = handle
      · subst hsame
        rw [h] at hother
        cases hother
        rw [List.getElem?_set_self hlt]
        simp [RealmHandle.callOf?, Realm.after]
      · have hindex : other.index ≠ handle.index := by
          intro hindex
          cases other
          cases handle
          exact hsame (congrArg RealmHandle.mk hindex)
        rw [List.getElem?_set_ne hindex, RealmHandle.callOf?, if_neg hsame]
        exact h

/-- What the caller sees of a step through the handle is what a call on the realm by itself
    looks like. -/
theorem recordOf?_step (h : rs.realm? handle = some realm) (step : ArenaStep σ) :
    (handle.recordOf? (step, (rs.step step).1)).toList =
      realm.records (handle.callOf? step).toList := by
  cases step with
  | insert added => rfl
  | get scope => rfl
  | unload scope => rfl
  | call other call =>
    by_cases hsame : other = handle
    · subst hsame
      rw [step_call_of_some h]
      simp [RealmHandle.recordOf?, RealmHandle.callOf?, Realm.records]
    · cases hother : rs.realm? other with
      | none => simp [step_call_of_none hother, RealmHandle.recordOf?, RealmHandle.callOf?, hsame,
          Realm.records]
      | some called => simp [step_call_of_some hother, RealmHandle.recordOf?,
          RealmHandle.callOf?, hsame, Realm.records]

end Realms

theorem Realm.records_append (realm : Realm σ) (earlier later : List RealmCall) :
    realm.records (earlier ++ later) =
      realm.records earlier ++ (realm.after earlier).records later := by
  induction earlier generalizing realm with
  | nil => rfl
  | cons call rest ih => simp [Realm.records, Realm.after, ih]

theorem RealmHandle.callsIn_cons (handle : RealmHandle) (step : ArenaStep σ)
    (rest : List (ArenaStep σ)) :
    handle.callsIn (step :: rest) = (handle.callOf? step).toList ++ handle.callsIn rest := by
  unfold callsIn
  rw [List.filterMap_cons]
  cases handle.callOf? step <;> rfl

namespace Realms

/-- **A run through a handle** looks like the same calls on the realm by itself. The
    induction goes along the steps, with the realm as the calls so far have left it. -/
theorem recordsIn_trace (h : rs.realm? handle = some realm) (steps : List (ArenaStep σ)) :
    handle.recordsIn (rs.trace steps) = realm.records (handle.callsIn steps) := by
  induction steps generalizing rs realm with
  | nil => rfl
  | cons step rest ih =>
    have hrest := ih (realm?_step h step)
    have hfirst := recordOf?_step h step
    rw [RealmHandle.callsIn_cons, Realm.records_append, ← hfirst, ← hrest]
    show ((step, (rs.step step).1) :: (rs.step step).2.trace rest).filterMap handle.recordOf? = _
    rw [List.filterMap_cons]
    cases handle.recordOf? (step, (rs.step step).1) <;> rfl

end Realms

/-! ## Live realms -/

namespace ArenaStep

/-- Whether the step takes away the realm that is live in the scope, by another one or by
    none. -/
def displaces (scope : ScopeId) : ArenaStep σ → Bool
  | .insert realm => realm.scope = scope
  | .unload other => other = scope
  | .get _ | .call _ _ => false

/-- The realm with this handle is the last one that the steps insert under the scope, and
    they do not unload the scope after that. -/
def IsLive (steps : List (ArenaStep σ)) (scope : ScopeId) (handle : RealmHandle) : Prop :=
  ∃ before realm later, steps = before ++ .insert realm :: later ∧ realm.scope = scope ∧
    handle = handleAfter before ∧ ∀ step ∈ later, step.displaces scope = false

/-- What is live after a step has been inserted by it, or was live before it. -/
theorem IsLive.concat_cases (h : IsLive (steps ++ [step]) scope handle) :
    (∃ realm, step = .insert realm ∧ realm.scope = scope ∧ handle = handleAfter steps) ∨
      step.displaces scope = false ∧ IsLive steps scope handle := by
  obtain ⟨before, realm, later, hsteps, hscope, hhandle, hlater⟩ := h
  rcases List.eq_nil_or_concat later with rfl | ⟨later', last, rfl⟩
  · -- The insertion is the last step.
    obtain ⟨rfl, hlast⟩ := List.append_inj' hsteps rfl
    exact Or.inl ⟨realm, List.singleton_inj.mp hlast, hscope, hhandle⟩
  · rw [List.concat_eq_append] at hsteps hlater
    rw [← List.cons_append, ← List.append_assoc] at hsteps
    obtain ⟨hinit, hlast⟩ := List.append_inj' hsteps rfl
    obtain rfl := List.singleton_inj.mp hlast
    refine Or.inr ⟨hlater step (by simp), before, realm, later', hinit, hscope, hhandle, ?_⟩
    intro other hother
    exact hlater other (List.mem_append_left _ hother)

theorem IsLive.concat (h : IsLive steps scope handle) (hkeeps : step.displaces scope = false) :
    IsLive (steps ++ [step]) scope handle := by
  obtain ⟨before, realm, later, rfl, hscope, hhandle, hlater⟩ := h
  refine ⟨before, realm, later ++ [step], by simp, hscope, hhandle, ?_⟩
  intro other hother
  rcases List.mem_append.mp hother with hother | hother
  · exact hlater other hother
  · rw [List.mem_singleton.mp hother]
    exact hkeeps

theorem isLive_concat_insert (steps : List (ArenaStep σ)) (realm : Realm σ) :
    IsLive (steps ++ [.insert realm]) realm.scope (handleAfter steps) :=
  ⟨steps, realm, [], rfl, rfl, rfl, by simp⟩

end ArenaStep

namespace Realms

theorem after_concat (rs : Realms σ) (steps : List (ArenaStep σ)) (step : ArenaStep σ) :
    rs.after (steps ++ [step]) = ((rs.after steps).step step).2 := by
  induction steps generalizing rs with
  | nil => rfl
  | cons first rest ih => exact ih (rs.step first).2

theorem live_step_call (rs : Realms σ) (called : RealmHandle) (call : RealmCall) :
    (rs.step (.call called call)).2.live = rs.live := by
  cases h : rs.realm? called with
  | none => rw [step_call_of_none h]
  | some realm => rw [step_call_of_some h, live_update]

/-- No scope has two entries. -/
theorem nodup_live_after (rs : Realms σ) (h : (Entries.keys rs.live).Nodup)
    (steps : List (ArenaStep σ)) : (Entries.keys (rs.after steps).live).Nodup := by
  induction steps generalizing rs with
  | nil => exact h
  | cons step rest ih =>
    apply ih
    cases step with
    | insert realm => exact Entries.nodup_keys_put h _ _
    | get scope => exact h
    | unload scope => exact Entries.nodup_keys_erase h _
    | call called call =>
      rw [live_step_call]
      exact h

theorem get?_step_of_not_displaces (rs : Realms σ) (h : step.displaces scope = false) :
    (rs.step step).2.get? scope = rs.get? scope := by
  cases step with
  | insert realm => exact Entries.get?_put_of_ne _ _ (of_decide_eq_false h)
  | get other => rfl
  | unload other => exact Entries.get?_erase_of_ne _ (of_decide_eq_false h)
  | call called call =>
    unfold Realms.get?
    rw [live_step_call]

/-- A step that displaces what is live leaves what it inserts itself. -/
theorem get?_step_of_displaces (steps : List (ArenaStep σ)) (h : step.displaces scope = true) :
    ((Realms.after {} steps).step step).2.get? scope =
      if step.inserts then some (handleAfter steps) else none := by
  cases step with
  | insert realm =>
    obtain rfl : realm.scope = scope := of_decide_eq_true h
    have hlength : (Realms.after {} steps).realms.length = steps.countP inserts := by
      rw [length_after]
      simp
    have hfound : ((Realms.after {} steps).step (.insert realm)).2.get? realm.scope =
        some ⟨(Realms.after {} steps).realms.length⟩ := Entries.get?_put_self _ _ _
    rw [hfound, hlength]
    rfl
  | get other => cases h
  | unload other =>
    obtain rfl : other = scope := of_decide_eq_true h
    exact Entries.get?_erase_self (nodup_live_after {} List.nodup_nil steps) _
  | call called call => cases h

/-- **The arena finds the live realm** of a scope, and nothing if there is none. The
    induction takes the last step apart. -/
theorem get?_after_iff (steps : List (ArenaStep σ)) (scope : ScopeId) (handle : RealmHandle) :
    (Realms.after {} steps).get? scope = some handle ↔ IsLive steps scope handle := by
  induction steps using List.reverseRecOn with
  | nil =>
    constructor
    · intro h
      cases h
    · rintro ⟨before, realm, later, hsteps, -⟩
      simp at hsteps
  | append_singleton steps step ih =>
    rw [after_concat]
    cases hdisplaces : step.displaces scope with
    | false =>
      rw [get?_step_of_not_displaces _ hdisplaces, ih]
      constructor
      · intro h
        exact h.concat hdisplaces
      · intro h
        rcases h.concat_cases with ⟨realm, rfl, hscope, -⟩ | ⟨-, hlive⟩
        · simp [displaces, hscope] at hdisplaces
        · exact hlive
    | true =>
      -- Nothing that was live before is live now.
      have honly : IsLive (steps ++ [step]) scope handle →
          ∃ realm, step = .insert realm ∧ realm.scope = scope ∧ handle = handleAfter steps := by
        intro h
        rcases h.concat_cases with hinserted | ⟨hkeeps, -⟩
        · exact hinserted
        · rw [hkeeps] at hdisplaces
          cases hdisplaces
      rw [get?_step_of_displaces steps hdisplaces]
      cases step with
      | insert realm =>
        obtain rfl : realm.scope = scope := of_decide_eq_true hdisplaces
        constructor
        · intro h
          cases h
          exact isLive_concat_insert steps realm
        · intro h
          obtain ⟨-, -, -, rfl⟩ := honly h
          rfl
      | get other => cases hdisplaces
      | unload other =>
        constructor
        · intro h
          cases h
        · intro h
          obtain ⟨realm, hinsert, -⟩ := honly h
          cases hinsert
      | call called call => cases hdisplaces

/-- **Realms are isolated.** Let a program build a realm, ask it some calls, and insert it
    after doing anything else with the arena.

    1. The realm gets a handle that no realm had before it. Behind the handle there is the
       realm as it was built: if it has not been asked anything, nothing has been worked
       out, whatever was under its scope before.
    2. Whatever the program does later with the arena, with other realms and with the scope,
       the calls through the handle look as if they were made one after the other on the
       realm by itself: outcomes and runs of handler code depend on the registry, the
       configuration and these calls alone.
    3. At any time all three operations on a scope yield the same: the realm that was
       inserted last under the scope, if the scope has not been unloaded since. -/
theorem isolated (before later : List (ArenaStep σ)) (scope : ScopeId) (registry : Registry σ)
    (config : GuardConfig) (earlier : List RealmCall) :
    (Realms.after {} before).realm? (handleAfter before) = none ∧
    (∀ realm : Realm σ, ((Realms.after {} before).step (.insert realm)).2.realm?
      (handleAfter before) = some realm) ∧
    (Realm.fresh scope registry config).records earlier ++
        (handleAfter before).recordsIn
          (((Realms.after {} before).step
            (.insert ((Realm.fresh scope registry config).after earlier))).2.trace later) =
      (Realm.fresh scope registry config).records
        (earlier ++ (handleAfter before).callsIn later) ∧
    ∀ asked, ∃ live : Option RealmHandle,
      (∀ handle, live = some handle ↔ IsLive before asked handle) ∧
      ((Realms.after {} before).step (.get asked)).1 = .found live ∧
      ((Realms.after {} before).step (.unload asked)).1 = .found live ∧
      ∀ realm : Realm σ, realm.scope = asked →
        ((Realms.after {} before).step (.insert realm)).1 = .found live := by
  refine ⟨realm?_handleAfter before, realm?_insert_handleAfter before, ?_, ?_⟩
  · have hrealm := realm?_insert_handleAfter before
      ((Realm.fresh scope registry config).after earlier)
    rw [recordsIn_trace hrealm, Realm.records_append]
  · intro asked
    refine ⟨(Realms.after {} before).get? asked, get?_after_iff before asked, rfl, rfl, ?_⟩
    rintro realm rfl
    rfl

/-! ## A scope that is used again -/

/-- The realm of a scope has built a handler and is then replaced by another one. The new
    realm builds its handler anew, whatever becomes of the scope and of the old realm. -/
theorem isolated_reused_scope :
    let before := [.insert Sample.realm, .call ⟨0⟩ (.slotStatus Sample.recipient)]
    let later := [.unload ⟨0⟩, .call ⟨0⟩ (.check Sample.recipient .null),
      .call ⟨1⟩ (.slotStatus Sample.recipient)]
    ((Realms.after {} before).step (.insert Sample.realm)).1 = .found (some ⟨0⟩) ∧
    RealmHandle.recordsIn ⟨1⟩ (((Realms.after {} before).step (.insert Sample.realm)).2.trace later) =
      [⟨.ok (.status (.ok (.guarded 1))), [.built .silent []]⟩] := by
  intro before later
  obtain ⟨-, -, hrecords, hscopes⟩ := isolated before later ⟨0⟩ Sample.registry {} []
  obtain ⟨live, hlive, -, -, hinsert⟩ := hscopes ⟨0⟩
  have hfirst : IsLive before ⟨0⟩ ⟨0⟩ :=
    ⟨[], Sample.realm, [.call ⟨0⟩ (.slotStatus Sample.recipient)], rfl, rfl, rfl, by simp [displaces]⟩
  constructor
  · rw [← (hlive ⟨0⟩).mpr hfirst]
    exact hinsert Sample.realm rfl
  · exact hrecords

end Realms

end AnnotationGuards
