import AnnotationGuards.Message.Rendering
import Mathlib.Algebra.BigOperators.Group.List.Basic
import Mathlib.Algebra.GroupWithZero.Nat
import Mathlib.Data.Fintype.Card
import Mathlib.Data.Fintype.EquivFin
import Mathlib.Order.WellFounded

/-! # Which texts have an end

    Showing an annotation shows the values of its attributes, defaults included,
    and those may hold annotations again. The defaults of a type may lead back to
    the type, and nothing keeps track of the types that a text is already inside
    of. The bound on the nesting of texts is no part of this: it is never reached
    by a text that has an end.

    * `Registry.ShownIn`: one value is shown as a part of another.
    * `Registry.Endless`: parts of parts of a value are shown without end.
    * `Registry.isSome_renderAttr?_of_acc`: what is not endless stays within the
      bound. Every default is entered once at most on the way down.
    * `Registry.isSome_renderAnnotation?_iff`, `Registry.isSome_renderTemplate?_iff`:
      which annotations and templates have a text.
    * `Registry.not_endless_of_acyclic`: all of them have one if the defaults of no
      type lead back to the type. -/

namespace AnnotationGuards

open Relation

variable {σ : Type} {r : Registry σ} {a : Annotation} {v w : AttrValue}

/-! ## Texts of all items of a list -/

theorem isSome_mapM_iff {α β : Type} {f : α → Option β} {items : List α} :
    (items.mapM f).isSome = true ↔ ∀ x ∈ items, (f x).isSome = true := by
  induction items with
  | nil => simp
  | cons first rest ih =>
    rw [List.mapM_cons, List.forall_mem_cons, ← ih]
    cases f first with
    | none => simp
    | some y => cases rest.mapM f <;> simp

theorem mapM_congr {α β : Type} {f g : α → Option β} {items : List α}
    (h : ∀ x ∈ items, f x = g x) : items.mapM f = items.mapM g := by
  induction items with
  | nil => rfl
  | cons first rest ih =>
    have hrest := ih fun x hx => h x (List.mem_cons_of_mem _ hx)
    rw [List.mapM_cons, List.mapM_cons, h first (List.mem_cons_self ..), hrest]

/-! ## Parts of values -/

namespace Registry

/-- Showing the second value shows the first one as a part of it: an item of an
    array, or an attribute of an annotation, be it written or a default. -/
inductive ShownIn (r : Registry σ) : AttrValue → AttrValue → Prop
  | inArray {w : AttrValue} {items : List AttrValue} (h : w ∈ items) : ShownIn r w (.array items)
  | inNested {name : String} {w : AttrValue} {t : TypeId} {written : List (String × AttrValue)}
    (h : (name, w) ∈ r.attributes ⟨t, written⟩) : ShownIn r w (.nested t written)

/-- Parts of parts of the value are shown without end. -/
def Endless (r : Registry σ) (v : AttrValue) : Prop :=
  ∃ part : Nat → AttrValue, part 0 = v ∧ ∀ n, r.ShownIn (part (n + 1)) (part n)

/-- Showing the annotation shows annotations in it without end. -/
def EndlessAt (r : Registry σ) (a : Annotation) : Prop := r.Endless (.nested a.type a.attributes)

theorem endless_iff_not_acc : r.Endless v ↔ ¬ Acc r.ShownIn v :=
  not_acc_iff_exists_descending_chain.symm

/-- All defaults that are declared. -/
def defaults (r : Registry σ) : List AttrValue :=
  r.types.flatMap fun d =>
    match d.annotation? with
    | some declared => declared.attributes.filterMap Prod.snd
    | none => []

theorem defaultDepthOf_eq (declared : List (String × Option AttrValue)) :
    defaultDepthOf declared = ((declared.filterMap Prod.snd).map AttrValue.depth).sum := by
  induction declared with
  | nil => rfl
  | cons entry rest ih =>
    obtain ⟨name, _ | v⟩ := entry <;> simp [defaultDepthOf, ih]

/-- The depth of all defaults together is the sum of their depths. -/
theorem defaultDepth_eq (r : Registry σ) :
    r.defaultDepth = (r.defaults.map AttrValue.depth).sum := by
  unfold defaultDepth defaults
  induction r.types with
  | nil => rfl
  | cons d rest ih =>
    rw [List.foldr_cons, List.flatMap_cons, List.map_append, List.sum_append, ih]
    cases d.annotation? with
    | none => simp
    | some declared => simp only [defaultDepthOf_eq]

end Registry

namespace AttrValue

theorem depth_pos (v : AttrValue) : 0 < v.depth := by
  cases v <;> simp [depth]

theorem depth_lt_of_mem_items {items : List AttrValue} (h : w ∈ items) :
    w.depth < (AttrValue.array items).depth := by
  have hle : w.depth ≤ depthAll items := by
    induction items with
    | nil => cases h
    | cons first rest ih =>
      simp only [depthAll]
      rcases List.mem_cons.mp h with rfl | h
      · omega
      · have := ih h
        omega
  simp only [depth]
  omega

theorem depth_le_depthNamed {name : String} {written : List (String × AttrValue)}
    (h : (name, w) ∈ written) : w.depth ≤ depthNamed written := by
  induction written with
  | nil => cases h
  | cons first rest ih =>
    obtain ⟨n, v⟩ := first
    simp only [depthNamed]
    rcases List.mem_cons.mp h with heq | h
    · cases heq
      omega
    · have := ih h
      omega

end AttrValue

/-! ## Attributes are written or defaults -/

theorem Entries.mem_put {κ α : Type} [DecidableEq κ] {entries : Entries κ α} {key : κ} {x : α}
    {entry : κ × α} (h : entry ∈ Entries.put entries key x) : entry = (key, x) ∨ entry ∈ entries := by
  induction entries with
  | nil => exact Or.inl (List.mem_singleton.mp h)
  | cons head rest ih =>
    obtain ⟨k, y⟩ := head
    unfold Entries.put at h
    split at h
    · next hk =>
      subst hk
      rcases List.mem_cons.mp h with h | h
      · exact Or.inl h
      · exact Or.inr (List.mem_cons_of_mem _ h)
    · rcases List.mem_cons.mp h with rfl | h
      · exact Or.inr (List.mem_cons_self ..)
      · exact (ih h).imp_right (List.mem_cons_of_mem _)

namespace Registry

theorem mem_defaults_of_default? {t : TypeId} {name : String}
    (h : r.default? t name = some v) : v ∈ r.defaults := by
  unfold default? at h
  obtain ⟨declared, hdeclared, hdefault⟩ := Option.bind_eq_some_iff.mp h
  obtain ⟨d, hd, hkind⟩ := Option.bind_eq_some_iff.mp hdeclared
  unfold AnnotationDef.default? at hdefault
  have hentry : Entries.get? declared.attributes name = some (some v) :=
    Option.join_eq_some_iff.mp hdefault
  refine List.mem_flatMap.mpr ⟨d, List.mem_of_getElem? hd, ?_⟩
  rw [hkind]
  exact List.mem_filterMap.mpr ⟨(name, some v), Entries.mem_of_get? hentry, rfl⟩

/-- Where the value of an attribute comes from. -/
def Given (r : Registry σ) (a : Annotation) (entry : String × AttrValue) : Prop :=
  entry ∈ a.attributes ∨ r.default? a.type entry.1 = some entry.2

theorem given_of_attribute? {name : String} (h : r.attribute? a name = some v) :
    r.Given a (name, v) := by
  unfold attribute? at h
  cases hget : a.get? name with
  | some written =>
    rw [hget] at h
    cases h
    exact Or.inl (Entries.mem_of_get? hget)
  | none =>
    rw [hget] at h
    exact Or.inr h

theorem given_of_mem_declaredAttributes {entry : String × AttrValue}
    (h : entry ∈ r.declaredAttributes a) : r.Given a entry := by
  -- Whatever has been found so far is given, and so is what each further name finds.
  have hall : ∀ e ∈ r.declaredAttributes a, r.Given a e := by
    refine List.foldlRecOn (motive := fun found => ∀ e ∈ found, r.Given a e) _ _ (by simp) ?_
    intro found hfound name _ e he
    cases hvalue : r.attribute? a name with
    | none =>
      simp only [hvalue] at he
      exact hfound e he
    | some v =>
      simp only [hvalue] at he
      rcases Entries.mem_put he with rfl | he
      · exact given_of_attribute? hvalue
      · exact hfound e he
  exact hall entry h

/-- The attributes of an annotation are what is written at the use site and what
    its type declares as defaults. -/
theorem given_of_mem_attributes {entry : String × AttrValue} (h : entry ∈ r.attributes a) :
    r.Given a entry := by
  have hall : ∀ e ∈ r.attributes a, r.Given a e := by
    refine List.foldlRecOn (motive := fun found => ∀ e ∈ found, r.Given a e) _ _
      (fun _ he => given_of_mem_declaredAttributes he) ?_
    intro found hfound written hwritten e he
    split at he
    · exact hfound e he
    · rcases Entries.mem_put he with rfl | he
      · exact Or.inl hwritten
      · exact hfound e he
  exact hall entry h

/-- A part of a value lies less deep than the value, or is a default. -/
theorem ShownIn.depth_lt_or_mem_defaults (h : r.ShownIn w v) :
    w.depth < v.depth ∨ w ∈ r.defaults := by
  cases h with
  | inArray h => exact Or.inl (AttrValue.depth_lt_of_mem_items h)
  | @inNested _ _ _ written h =>
    rcases given_of_mem_attributes h with hwritten | hdefault
    · have hle : w.depth ≤ AttrValue.depthNamed written := AttrValue.depth_le_depthNamed hwritten
      simp only [AttrValue.depth]
      exact Or.inl (by omega)
    · exact Or.inr (mem_defaults_of_default? hdefault)

/-! ## One level of a text -/

/-- An annotation has a text if its attributes have. -/
theorem isSome_renderWith_iff {render : AttrValue → Option String} :
    (r.renderWith render a).isSome = true ↔
      ∀ entry ∈ r.attributes a, (render entry.2).isSome = true := by
  have hparts : ∀ entries : List (String × AttrValue),
      (entries.mapM fun entry => (render entry.2).map fun text => entry.1 ++ "=" ++ text).isSome =
        true ↔ ∀ entry ∈ entries, (render entry.2).isSome = true := by
    intro entries
    rw [isSome_mapM_iff]
    simp
  unfold renderWith
  cases hattributes : r.attributes a with
  | nil => simp
  | cons first rest =>
    rw [← hparts (first :: rest)]
    dsimp only
    cases (first :: rest).mapM fun entry =>
      (render entry.2).map fun text => entry.1 ++ "=" ++ text <;> simp

/-- The text of an annotation depends on the texts of its attributes only. -/
theorem renderWith_congr {render render' : AttrValue → Option String}
    (h : ∀ entry ∈ r.attributes a, render entry.2 = render' entry.2) :
    r.renderWith render a = r.renderWith render' a := by
  unfold renderWith
  cases hattributes : r.attributes a with
  | nil => rfl
  | cons first rest =>
    rw [hattributes] at h
    have hparts := mapM_congr (f := fun entry : String × AttrValue =>
        (render entry.2).map fun text => entry.1 ++ "=" ++ text)
      (g := fun entry => (render' entry.2).map fun text => entry.1 ++ "=" ++ text)
      fun entry hentry => by rw [h entry hentry]
    simp only [hparts]

/-- Whether a value has a text does not hang on quotation marks. -/
theorem isSome_renderAttr?_quoted (depth : Nat) (quoted : Bool) (v : AttrValue) :
    (r.renderAttr? depth quoted v).isSome = (r.renderAttr? depth true v).isSome := by
  induction depth generalizing v with
  | zero => rfl
  | succ depth ih =>
    cases v with
    | array items =>
      have hitems : (items.mapM (r.renderAttr? depth quoted)).isSome =
          (items.mapM (r.renderAttr? depth true)).isSome := by
        rw [Bool.eq_iff_iff, isSome_mapM_iff, isSome_mapM_iff]
        simp only [ih]
      unfold renderAttr?
      revert hitems
      cases items.mapM (r.renderAttr? depth quoted) <;>
        cases items.mapM (r.renderAttr? depth true) <;> simp
    | _ => rfl

/-- **One level**: a value has a text if its parts have one with a level less. -/
theorem isSome_renderAttr?_succ_iff {depth : Nat} {quoted : Bool} :
    (r.renderAttr? (depth + 1) quoted v).isSome = true ↔
      ∀ w, r.ShownIn w v → (r.renderAttr? depth true w).isSome = true := by
  cases v with
  | array items =>
    have hitems : (r.renderAttr? (depth + 1) quoted (.array items)).isSome =
        (items.mapM (r.renderAttr? depth quoted)).isSome := by
      unfold renderAttr?
      cases items.mapM (r.renderAttr? depth quoted) <;> rfl
    rw [hitems, isSome_mapM_iff]
    constructor
    · intro h w hw
      cases hw with
      | inArray hmem => rw [← isSome_renderAttr?_quoted depth quoted]; exact h w hmem
    · intro h w hmem
      rw [isSome_renderAttr?_quoted]
      exact h w (.inArray hmem)
  | nested t written =>
    have hwith : (r.renderAttr? (depth + 1) quoted (.nested t written)).isSome =
        (r.renderWith (r.renderAttr? depth true) ⟨t, written⟩).isSome := rfl
    rw [hwith, isSome_renderWith_iff]
    constructor
    · intro h w hw
      cases hw with
      | inNested hmem => exact h _ hmem
    · intro h entry hmem
      exact h entry.2 (.inNested hmem)
  | _ =>
    -- A plain value has no parts.
    refine iff_of_true rfl ?_
    intro w hw
    cases hw

/-! ## All levels -/

/-- A value that has a text is not endless. -/
theorem acc_of_isSome_renderAttr? {depth : Nat} {quoted : Bool}
    (h : (r.renderAttr? depth quoted v).isSome = true) : Acc r.ShownIn v := by
  induction depth generalizing v quoted with
  | zero => cases h
  | succ depth ih =>
    rw [isSome_renderAttr?_succ_iff] at h
    exact Acc.intro v fun w hw => ih (h w hw)

theorem not_transGen_of_acc (h : Acc r.ShownIn v) : ¬ TransGen r.ShownIn v v := by
  have hacc : Acc (TransGen r.ShownIn) v := h.transGen
  induction hacc with
  | intro v _ ih => exact fun hloop => ih v hloop (h.inv_of_transGen hloop) hloop

/-- **What is not endless stays within the bound.** The defaults still to be entered
    on the way down are `unused`: one that was entered before would have led to
    itself. So the way is no longer than the value and these defaults are deep. -/
theorem isSome_renderAttr?_of_acc (h : Acc r.ShownIn v) (unused : List AttrValue)
    (hunused : ∀ w ∈ r.defaults, TransGen r.ShownIn w v → w ∈ unused) {depth : Nat}
    (hdepth : v.depth + (unused.map AttrValue.depth).sum ≤ depth) :
    (r.renderAttr? depth true v).isSome = true := by
  classical
  induction h generalizing unused depth with
  | intro v hparts ih =>
    obtain ⟨depth, rfl⟩ : ∃ k, depth = k + 1 := ⟨depth - 1, by have := v.depth_pos; omega⟩
    rw [isSome_renderAttr?_succ_iff]
    intro w hw
    rcases hw.depth_lt_or_mem_defaults with hlt | hdefault
    · refine ih w hw unused (fun u hu hbelow => hunused u hu (hbelow.tail hw)) ?_
      omega
    · -- The default is used up, so it counts with its own depth instead of the value's.
      have hmem : w ∈ unused := hunused w hdefault (.single hw)
      have hsum := List.sum_map_erase AttrValue.depth hmem
      refine ih w hw (unused.erase w) ?_ ?_
      · intro u hu hbelow
        have hne : u ≠ w := by
          rintro rfl
          exact not_transGen_of_acc (hparts u hw) hbelow
        exact (List.mem_erase_of_ne hne).mpr (hunused u hu (hbelow.tail hw))
      · have := v.depth_pos
        omega

/-- More levels change nothing about a value that has a text. -/
theorem renderAttr?_eq_of_isSome {depth depth' : Nat} (hle : depth ≤ depth') {quoted : Bool}
    (h : (r.renderAttr? depth quoted v).isSome = true) :
    r.renderAttr? depth' quoted v = r.renderAttr? depth quoted v := by
  induction depth generalizing depth' v quoted with
  | zero => cases h
  | succ depth ih =>
    obtain ⟨depth', rfl⟩ : ∃ k, depth' = k + 1 := ⟨depth' - 1, by omega⟩
    rw [isSome_renderAttr?_succ_iff] at h
    cases v with
    | array items =>
      unfold renderAttr?
      rw [mapM_congr fun w hw => ih (by omega) (by
        rw [isSome_renderAttr?_quoted]
        exact h w (.inArray hw))]
    | nested t written =>
      exact renderWith_congr fun entry hentry => ih (by omega) (h entry.2 (.inNested hentry))
    | _ => rfl

/-! ## Annotations and templates -/

/-- A part of an annotation stays within the bound for the annotation, unless it is
    endless. -/
theorem isSome_renderAttr?_renderDepth_iff {name : String} (hv : (name, v) ∈ r.attributes a)
    {quoted : Bool} :
    (r.renderAttr? (r.renderDepth a) quoted v).isSome = true ↔ ¬ r.Endless v := by
  classical
  rw [endless_iff_not_acc, not_not, isSome_renderAttr?_quoted]
  refine ⟨acc_of_isSome_renderAttr?, fun hacc => ?_⟩
  have hsum := r.defaultDepth_eq
  rcases given_of_mem_attributes hv with hwritten | hdefault
  · refine isSome_renderAttr?_of_acc hacc r.defaults (fun w hw _ => hw) ?_
    have hle := AttrValue.depth_le_depthNamed hwritten
    unfold renderDepth
    omega
  · -- A default does not come up again inside itself.
    have hmem := mem_defaults_of_default? hdefault
    have herase := List.sum_map_erase AttrValue.depth hmem
    refine isSome_renderAttr?_of_acc hacc (r.defaults.erase v) ?_ ?_
    · intro w hw hbelow
      have hne : w ≠ v := by
        rintro rfl
        exact not_transGen_of_acc hacc hbelow
      exact (List.mem_erase_of_ne hne).mpr hw
    · unfold renderDepth
      dsimp only at herase
      omega

theorem endlessAt_iff : r.EndlessAt a ↔ ∃ entry ∈ r.attributes a, r.Endless entry.2 := by
  unfold EndlessAt
  simp only [endless_iff_not_acc]
  constructor
  · intro h
    by_contra hnone
    push Not at hnone
    refine h (Acc.intro _ fun w hw => ?_)
    cases hw with
    | inNested hmem => exact hnone _ hmem
  · rintro ⟨entry, hmem, hnot⟩ hacc
    exact hnot (hacc.inv (.inNested hmem))

/-- **An annotation has a text exactly if it is not endless.** -/
theorem isSome_renderAnnotation?_iff (r : Registry σ) (a : Annotation) :
    (r.renderAnnotation? a).isSome = true ↔ ¬ r.EndlessAt a := by
  unfold renderAnnotation?
  rw [isSome_renderWith_iff, endlessAt_iff]
  push Not
  exact forall₂_congr fun entry hentry => isSome_renderAttr?_renderDepth_iff hentry

/-- The bound on the nesting of texts plays no part: a larger one gives the same
    texts, and none where there is none. -/
theorem renderWith_eq_of_renderDepth_le (r : Registry σ) (a : Annotation) {depth : Nat}
    (hle : r.renderDepth a ≤ depth) :
    r.renderWith (r.renderAttr? depth true) a = r.renderAnnotation? a := by
  by_cases h : (r.renderAnnotation? a).isSome = true
  · refine renderWith_congr fun entry hentry => renderAttr?_eq_of_isSome hle ?_
    exact isSome_renderWith_iff.mp h entry hentry
  · have hmore : ¬ (r.renderWith (r.renderAttr? depth true) a).isSome = true := by
      intro hsome
      rw [isSome_renderAnnotation?_iff, endlessAt_iff, not_not] at h
      obtain ⟨entry, hentry, hendless⟩ := h
      exact endless_iff_not_acc.mp hendless
        (acc_of_isSome_renderAttr? (isSome_renderWith_iff.mp hsome entry hentry))
    rw [Bool.not_eq_true, Option.isSome_eq_false_iff, Option.isNone_iff_eq_none] at h hmore
    rw [h, hmore]

/-- **A template has a text exactly if no placeholder stands for an endless value.** -/
theorem isSome_renderTemplate?_iff (r : Registry σ) (template : String) (a : Annotation) :
    (r.renderTemplate? template a).isSome = true ↔
      ∀ name v, .placeholder name ∈ Template.pieces template →
        Entries.get? (r.attributes a) name = some v → ¬ r.Endless v := by
  unfold renderTemplate?
  rw [Option.isSome_map, isSome_mapM_iff]
  constructor
  · intro h name v hmem hget
    have hpiece := h _ hmem
    simp only [renderPiece?, hget] at hpiece
    exact (isSome_renderAttr?_renderDepth_iff (Entries.mem_of_get? hget)).mp hpiece
  · intro h piece hmem
    cases piece with
    | literal c => rfl
    | placeholder name =>
      cases hget : Entries.get? (r.attributes a) name with
      | none => simp [renderPiece?, hget]
      | some v =>
        simp only [renderPiece?, hget]
        exact (isSome_renderAttr?_renderDepth_iff (Entries.mem_of_get? hget)).mpr
          (h name v hmem hget)

end Registry

/-! ## Defaults that do not lead back -/

namespace AttrValue

mutual

/-- The types of the annotations in a value, at any depth. -/
def types : AttrValue → List TypeId
  | .bool _ | .int _ | .double _ | .str _ | .type _ => []
  | .array items => typesOfAll items
  | .nested t written => t :: typesOfNamed written

/-- The types of the annotations in a list of values. -/
def typesOfAll : List AttrValue → List TypeId
  | [] => []
  | v :: rest => types v ++ typesOfAll rest

/-- The types of the annotations in a list of named values. -/
def typesOfNamed : List (String × AttrValue) → List TypeId
  | [] => []
  | (_, v) :: rest => types v ++ typesOfNamed rest

end

theorem types_subset_of_mem_items {items : List AttrValue} (h : w ∈ items) :
    w.types ⊆ (AttrValue.array items).types := by
  show w.types ⊆ typesOfAll items
  induction items with
  | nil => cases h
  | cons first rest ih =>
    unfold typesOfAll
    rcases List.mem_cons.mp h with rfl | h
    · exact List.subset_append_left _ _
    · exact List.Subset.trans (ih h) (List.subset_append_right _ _)

theorem types_subset_typesOfNamed {name : String} {written : List (String × AttrValue)}
    (h : (name, w) ∈ written) : w.types ⊆ typesOfNamed written := by
  induction written with
  | nil => cases h
  | cons first rest ih =>
    obtain ⟨n, v⟩ := first
    unfold typesOfNamed
    rcases List.mem_cons.mp h with heq | h
    · cases heq
      exact List.subset_append_left _ _
    · exact List.Subset.trans (ih h) (List.subset_append_right _ _)

end AttrValue

namespace Registry

/-- A default of the type `t` holds an annotation of type `m`. -/
def DefaultHolds (r : Registry σ) (t m : TypeId) : Prop :=
  ∃ name v, r.default? t name = some v ∧ m ∈ v.types

/-- A value is not endless if the defaults of the types in it are not. -/
theorem acc_of_defaults (h : ∀ t ∈ v.types, ∀ name w, r.default? t name = some w →
    Acc r.ShownIn w) : Acc r.ShownIn v := by
  -- What is written lies less deep than the value, and its types are among the value's.
  induction hdepth : v.depth using Nat.strong_induction_on generalizing v with
  | _ n ih =>
    refine Acc.intro v fun w hw => ?_
    cases hw with
    | inArray hmem =>
      exact ih _ (hdepth ▸ AttrValue.depth_lt_of_mem_items hmem)
        (fun t ht => h t (AttrValue.types_subset_of_mem_items hmem ht)) rfl
    | @inNested name _ t written hmem =>
      rcases given_of_mem_attributes hmem with hwritten | hdefault
      · have hle : w.depth ≤ AttrValue.depthNamed written := AttrValue.depth_le_depthNamed hwritten
        have hlt : w.depth < n := by
          rw [← hdepth]
          exact Nat.lt_succ_of_le hle
        exact ih _ hlt (fun u hu => h u (List.mem_cons_of_mem _
          (AttrValue.types_subset_typesOfNamed hwritten hu))) rfl
      · exact h t (List.mem_cons_self ..) _ w hdefault

end Registry

namespace TypeId

theorem finite : Finite TypeId :=
  Finite.of_injective (fun t : TypeId => (⟨t.toNat, t.val.toNat_lt⟩ : Fin (2 ^ 32))) fun s t h => by
    have hnat : s.val.toNat = t.val.toNat := congrArg Fin.val h
    exact congrArg TypeId.mk (UInt32.toNat_inj.mp hnat)

/-- There are finitely many types, so every way through them ends if none leads back. -/
theorem wellFounded_of_acyclic {step : TypeId → TypeId → Prop} (h : ∀ t, ¬ TransGen step t t) :
    WellFounded fun next t => step t next := by
  have hfinite := TypeId.finite
  have htrans : IsTrans TypeId fun m t => TransGen step t m :=
    ⟨fun _ _ _ hlm hmt => hmt.trans hlm⟩
  have hirrefl : Std.Irrefl fun m t => TransGen step t m := ⟨h⟩
  have hwf : WellFounded fun m t => TransGen step t m :=
    Finite.wellFounded_of_trans_of_irrefl _
  exact Subrelation.wf (fun hstep => .single hstep) hwf

end TypeId

namespace Registry

/-- **Defaults that do not lead back**: if no type is led back to itself by the
    annotations in defaults, nothing is endless. -/
theorem not_endless_of_acyclic (h : ∀ t, ¬ TransGen r.DefaultHolds t t) (v : AttrValue) :
    ¬ r.Endless v := by
  rw [endless_iff_not_acc, not_not]
  -- The induction is on the way down through defaults.
  have hwf := TypeId.wellFounded_of_acyclic h
  have hdefaults : ∀ t name w, r.default? t name = some w → Acc r.ShownIn w := by
    intro t
    induction t using hwf.induction with
    | _ t ih =>
      intro name w hw
      exact acc_of_defaults fun m hm => ih m ⟨name, w, hw, hm⟩
  exact acc_of_defaults fun t _ => hdefaults t

end Registry

end AnnotationGuards
