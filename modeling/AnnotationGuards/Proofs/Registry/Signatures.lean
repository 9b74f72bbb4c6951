import AnnotationGuards.Proofs.Registry.Names
import AnnotationGuards.Proofs.Text.Delimited
import AnnotationGuards.Registry.Naming

/-! # What a signature tells

    A signature is one flat text, put together from the name of a member and the qualified
    names of its raw parameter types. It can be taken apart again where names are such as
    hosts have them, and the qualified names tell the types apart because the index of a
    registry does.

    * `Registry.Findable`: every registered type is found under its qualified name.
      `Registry.Effect.findable`, `Registry.findable_after`: changes keep it so, even when
      there are no identities left.
    * `Registry.NamedPlainly`: the names that can be taken out of a signature.
    * **`Registry.signatures_identify_overloads`**: members have one signature exactly if they
      have one name and the same raw parameter types. -/

namespace AnnotationGuards

variable {σ : Type} {r : Registry σ} {t : TypeId} {m m' : Member}

namespace Registry

/-! ## Types by their names -/

/-- Types stand behind the types around them, and every registered type is found under its
    qualified name. -/
structure Findable (r : Registry σ) : Prop where
  layered : r.Layered
  getByName?_qualifiedName : ∀ t, (r.get? t).isSome → r.getByName? (r.qualifiedName t) = some t

theorem Indexed.findable (h : r.Indexed) : r.Findable where
  layered := h.layered
  getByName?_qualifiedName := by
    intro t hreg
    exact (h.getByName?_iff _ t).mpr ⟨hreg, rfl⟩

/-- One more type is found under the name that its declaration asks for. If its identity has
    been given away already, it is no type that can be asked for. -/
theorem Findable.add (h : r.Findable) {d : TypeDef σ}
    (houter : ∀ outer, d.enclosing = some outer → (r.get? outer).isSome)
    (hfree : r.getByName? (r.nameOf d) = none) : (r.add d).Findable where
  layered := h.layered.add houter
  getByName?_qualifiedName := by
    intro t hreg
    have hgrows := r.growsTo_add d
    have hlookup : ∀ name, (r.add d).getByName? name =
        if r.nameOf d = name then some (TypeId.ofNat r.size) else r.getByName? name :=
      fun name => Entries.get?_put ..
    rw [hlookup]
    obtain ⟨d', hget⟩ := Option.isSome_iff_exists.mp hreg
    rcases get?_add_eq_some_iff.mp hget with hold | ⟨hnew, rfl⟩
    · have hfound := h.getByName?_qualifiedName t (by simp [hold])
      rw [hgrows.qualifiedName h.layered (by simp [hold])]
      -- The new name was not in the index, so it is not that of a type before.
      have hne : r.nameOf d ≠ r.qualifiedName t := by
        intro hname
        rw [← hname, hfree] at hfound
        cases hfound
      rw [if_neg hne, hfound]
    · have hname : (r.add d).qualifiedName t = r.nameOf d := by
        rw [qualifiedName_of_get? (h.layered.add houter) hget, hgrows.nameOf h.layered houter]
      rw [hname, if_pos rfl, ← hnew, TypeId.ofNat_toNat]

/-- Another content of the same sort leaves the names and the index as they are. -/
theorem Findable.setKind (h : r.Findable) {s : TypeId} {d : TypeDef σ} {kind : TypeKind σ}
    (hget : r.get? s = some d) (hsort : d.kind.SameSort kind) : (r.setKind s kind).Findable where
  layered := h.layered.setKind hget hsort
  getByName?_qualifiedName := by
    intro t hreg
    rw [isSome_get?_iff, size_setKind, ← isSome_get?_iff] at hreg
    rw [(growsTo_setKind hget hsort).qualifiedName h.layered hreg]
    exact h.getByName?_qualifiedName t hreg

/-- Whatever a change comes to, registered types are found under their names. -/
theorem Effect.findable {out : Except RegistryError (Option TypeId) × Registry σ}
    (h : r.Effect out) (hfindable : r.Findable) : out.2.Findable := by
  cases h with
  | refused => exact hfindable
  | declared d houter hfree => exact hfindable.add houter hfree
  | replaced s d kind hget hsort => exact hfindable.setKind hget hsort

/-- And so they are after a run of changes. -/
theorem findable_after (changes : List (RegistryChange σ)) (h : r.Findable) :
    (r.after changes).Findable := by
  induction changes generalizing r with
  | nil => exact h
  | cons change rest ih => exact ih ((r.attempt_effect change).findable h)

theorem Reached.findable (h : r.Reached) : r.Findable := by
  obtain ⟨changes, rfl⟩ := h
  exact findable_after changes indexed_initial.findable

/-- Registered types are told apart by their names, in a list as well. -/
theorem Findable.eq_of_map_qualifiedName_eq (h : r.Findable) {types types' : List TypeId}
    (hreg : ∀ t ∈ types, (r.get? t).isSome) (hreg' : ∀ t ∈ types', (r.get? t).isSome)
    (heq : types.map r.qualifiedName = types'.map r.qualifiedName) : types = types' := by
  have hfound : ∀ {types : List TypeId}, (∀ t ∈ types, (r.get? t).isSome) →
      (types.map r.qualifiedName).map r.getByName? = types.map some := by
    intro types hreg
    rw [List.map_map]
    apply List.map_congr_left
    intro t ht
    exact h.getByName?_qualifiedName t (hreg t ht)
  have hsome : types.map some = types'.map some := by
    rw [← hfound hreg, heq, hfound hreg']
  exact List.map_injective_iff.mpr (fun _ _ => Option.some.inj) hsome

/-! ## Taking a signature apart -/

end Registry

/-- The raw types of a member's parameters, in their order. -/
def Member.rawTypes (m : Member) : List TypeId := m.params.map fun p => p.type.raw

namespace Registry

/-- The member's name holds no opening parenthesis, and the types of its parameters are
    registered under names that are not empty and hold no comma. -/
structure NamedPlainly (r : Registry σ) (m : Member) : Prop where
  name : '(' ∉ m.name.toList
  registered : ∀ t ∈ m.rawTypes, (r.get? t).isSome
  params : ∀ t ∈ m.rawTypes, r.qualifiedName t ≠ "" ∧ ',' ∉ (r.qualifiedName t).toList

/-- Nothing but the name and the raw types goes into a signature. -/
theorem signature_eq (r : Registry σ) (m : Member) :
    r.signature m = m.name ++ "(" ++ ", ".intercalate (m.rawTypes.map r.qualifiedName) ++ ")" := by
  unfold signature Member.rawTypes
  rw [List.map_map]
  rfl

theorem toList_signature (r : Registry σ) (m : Member) :
    (r.signature m).toList = m.name.toList ++ '(' ::
      ([',', ' '].intercalate ((m.rawTypes.map r.qualifiedName).map String.toList) ++ [')']) := by
  rw [signature_eq, String.toList_append, String.toList_append, String.toList_append,
    String.toList_intercalate]
  simp

/-- **Signatures identify overloads**:

    1. members with one name and the same raw parameter types in the same order have one
       signature, whatever else they differ in, in any registry;
    2. members that are named plainly have one signature in no other case, in a registry that
       has come about by changes. -/
theorem signatures_identify_overloads (r : Registry σ) :
    (∀ m m' : Member, m.name = m'.name → m.rawTypes = m'.rawTypes →
      r.signature m = r.signature m') ∧
    (r.Reached → ∀ m m' : Member, r.NamedPlainly m → r.NamedPlainly m' →
      (r.signature m = r.signature m' ↔ m.name = m'.name ∧ m.rawTypes = m'.rawTypes)) := by
  have hsame : ∀ m m' : Member, m.name = m'.name → m.rawTypes = m'.rawTypes →
      r.signature m = r.signature m' := by
    intro m m' hname htypes
    rw [signature_eq, signature_eq, hname, htypes]
  refine ⟨hsame, ?_⟩
  intro hreached m m' hm hm'
  constructor
  · intro hsignature
    have hpieces : ∀ m : Member, r.NamedPlainly m →
        ∀ text ∈ (m.rawTypes.map r.qualifiedName).map String.toList, text ≠ [] ∧ ',' ∉ text := by
      intro m hm text htext
      obtain ⟨name, hname, rfl⟩ := List.mem_map.mp htext
      obtain ⟨t, ht, rfl⟩ := List.mem_map.mp hname
      obtain ⟨hne, hcomma⟩ := hm.params t ht
      exact ⟨fun hnil => hne (String.toList_eq_nil_iff.mp hnil), hcomma⟩
    -- The name ends at the first parenthesis, and the joined names end before the last one.
    have hchars := congrArg String.toList hsignature
    rw [toList_signature, toList_signature] at hchars
    obtain ⟨hname, hrest⟩ := Text.append_cons_inj hm.name hm'.name hchars
    have hjoined := List.append_cancel_right hrest
    have hnames := Text.intercalate_inj (hpieces m hm) (hpieces m' hm') hjoined
    have htypes := List.map_injective_iff.mpr (fun _ _ => String.toList_inj.mp) hnames
    exact ⟨String.toList_inj.mp hname,
      hreached.findable.eq_of_map_qualifiedName_eq hm.registered hm'.registered htypes⟩
  · intro hboth
    exact hsame m m' hboth.1 hboth.2

end Registry

/-! ## Types of one simple name -/

namespace Sample.Overloaded

def pointA : TypeId := ⟨34⟩
def pointB : TypeId := ⟨35⟩

def registry : Registry Unit := Registry.initial.after [
  .declareClass "a" "Point" {},
  .declareClass "b" "Point" {}]

/-- A method that takes a point and a list. -/
def moveBy (point : TypeId) (arguments : List GenericType) : Member where
  kind := .method
  name := "moveBy"
  params := [{ name := "to", type := .ofRaw point }, { name := "via", type := .mk .list arguments }]

end Sample.Overloaded

namespace Registry

open Sample.Overloaded

/-- Points of two packages are told apart, and lists of points are not. -/
theorem signatures_identify_overloads_sample :
    registry.Reached ∧
    registry.NamedPlainly (moveBy pointA []) ∧ registry.NamedPlainly (moveBy pointB []) ∧
    registry.signature (moveBy pointA []) ≠ registry.signature (moveBy pointB []) ∧
    registry.signature (moveBy pointA [.ofRaw pointA]) =
      registry.signature (moveBy pointA [.ofRaw pointB]) := by
  obtain ⟨hsame, hiff⟩ := signatures_identify_overloads registry
  have hreached : registry.Reached := ⟨_, rfl⟩
  have hplain : ∀ point ∈ [pointA, pointB], registry.NamedPlainly (moveBy point []) := by
    intro point hpoint
    have hraw : (moveBy point []).rawTypes = [point, .list] := rfl
    refine ⟨?_, ?_, ?_⟩
    · show '(' ∉ "moveBy".toList
      decide
    all_goals
      rw [hraw]
      revert point
      decide
  have ha := hplain pointA (by decide)
  have hb := hplain pointB (by decide)
  refine ⟨hreached, ha, hb, ?_, hsame _ _ rfl rfl⟩
  intro heq
  obtain ⟨-, htypes⟩ := (hiff hreached _ _ ha hb).mp heq
  exact absurd htypes (by decide)

end Registry

end AnnotationGuards
