import AnnotationGuards.Registry.Attributes

/-! # Attributes by their names

    Whether the value of an attribute is asked for by its name or all values are gathered
    first and it is looked up among them, comes to the same. The values come in an order of
    their own: the declaration sets it for the attributes that it declares, and the use site
    only for those that it adds.

    * `Entries.get?_putEach`, `Entries.get?_putMissing`: what is found after values have been
      put one after the other.
    * `Entries.keys_putEach`, `Entries.keys_putMissing`: which keys there are then.
    * **`Registry.get?_attributes`**: the value of an attribute among all of them.
    * `Registry.attribute?_eq_some_iff`: where the value of an attribute comes from.
    * **`Registry.attribute_views_agree`**: the values that are found one by one are those
      that are gathered, and the order that they are gathered in. -/

namespace AnnotationGuards

/-! ## Looking up what has been put -/

namespace Entries

variable {κ α : Type} [DecidableEq κ]

/-- A key that gets a value is found with it, and the others are found as before. -/
theorem get?_putEach (value? : κ → Option α) (keys : List κ) (found : Entries κ α) (key : κ) :
    get? (keys.foldl (fun found k => (value? k).elim found (put found k)) found) key =
      if key ∈ keys then (value? key).or (get? found key) else get? found key := by
  induction keys generalizing found with
  | nil => rfl
  | cons k rest ih =>
    rw [List.foldl_cons, ih]
    by_cases hk : k = key
    · subst hk
      rw [if_pos List.mem_cons_self]
      cases hvalue : value? k with
      | none => simp
      | some v =>
        -- It is put again each time that the key comes up, with the same value.
        by_cases hmem : k ∈ rest <;> simp [hmem]
    · have hsame : get? ((value? k).elim found (put found k)) key = get? found key := by
        cases value? k with
        | none => rfl
        | some v => exact get?_put_of_ne found v hk
      have hmem : key ∈ k :: rest ↔ key ∈ rest := by simp [Ne.symm hk]
      rw [hsame]
      simp only [hmem]

/-- A key that is there already keeps its value, and the others get the first one that is
    written. -/
theorem get?_putMissing (written found : Entries κ α) (key : κ) :
    get? (written.foldl (fun found entry =>
        if contains found entry.1 then found else put found entry.1 entry.2) found) key =
      (get? found key).or (get? written key) := by
  induction written generalizing found with
  | nil => simp
  | cons entry rest ih =>
    obtain ⟨k, v⟩ := entry
    rw [List.foldl_cons, ih, get?_cons]
    by_cases hthere : contains found k = true
    · obtain ⟨w, hw⟩ := Option.isSome_iff_exists.mp hthere
      rw [if_pos hthere]
      by_cases hk : k = key
      · subst hk
        simp [hw]
      · rw [if_neg hk]
    · rw [if_neg hthere]
      by_cases hk : k = key
      · subst hk
        have hnone : get? found k = none := by
          simpa [contains] using hthere
        simp [hnone]
      · rw [get?_put_of_ne found v hk, if_neg hk]

/-! ## The keys of what has been put -/

/-- New keys come after those that are there, in the order in which they are put. -/
theorem keys_putEach (value? : κ → Option α) {ks : List κ} {found : Entries κ α}
    (hnodup : ks.Nodup) (hnew : ∀ k ∈ ks, k ∉ keys found) :
    keys (ks.foldl (fun found k => (value? k).elim found (put found k)) found) =
      keys found ++ ks.filter fun k => (value? k).isSome := by
  induction ks generalizing found with
  | nil => simp
  | cons k rest ih =>
    obtain ⟨hnot, hrest⟩ := List.nodup_cons.mp hnodup
    have hnewRest : ∀ k' ∈ rest, k' ∉ keys found := fun k' hk' =>
      hnew k' (List.mem_cons_of_mem k hk')
    rw [List.foldl_cons]
    cases hvalue : value? k with
    | none =>
      rw [List.filter_cons_of_neg (by simp [hvalue])]
      exact ih hrest hnewRest
    | some v =>
      -- The key goes to the end, and as no key comes up twice the rest is still new.
      have hkeys : keys (put found k v) = keys found ++ [k] :=
        keys_put_of_not_mem found v (hnew k List.mem_cons_self)
      have hnewPut : ∀ k' ∈ rest, k' ∉ keys (put found k v) := by
        intro k' hk' hmem
        rw [hkeys] at hmem
        rcases List.mem_append.mp hmem with hmem | hmem
        · exact hnewRest k' hk' hmem
        · rw [List.mem_singleton.mp hmem] at hk'
          exact hnot hk'
      rw [Option.elim_some, ih hrest hnewPut, hkeys, List.filter_cons_of_pos (by simp [hvalue]),
        List.append_assoc, List.singleton_append]

/-- Keys that are there already stay where they are, and the others come after them in the
    order in which they are written. -/
theorem keys_putMissing {written found : Entries κ α} (hnodup : (keys written).Nodup) :
    keys (written.foldl (fun found entry =>
        if contains found entry.1 then found else put found entry.1 entry.2) found) =
      keys found ++ (keys written).filter (· ∉ keys found) := by
  induction written generalizing found with
  | nil => simp [keys]
  | cons entry rest ih =>
    obtain ⟨k, v⟩ := entry
    obtain ⟨hnot, hrest⟩ := List.nodup_cons.mp hnodup
    have hcons : keys ((k, v) :: rest) = k :: keys rest := rfl
    have hthere : contains found k = true ↔ k ∈ keys found := by
      rw [← Decidable.not_iff_not, ← get?_eq_none_iff]
      simp [contains]
    rw [List.foldl_cons, ih hrest, hcons]
    by_cases hk : k ∈ keys found
    · rw [if_pos (hthere.mpr hk), List.filter_cons_of_neg (by simpa using hk)]
    · rw [if_neg (mt hthere.mp hk), keys_put_of_not_mem found v hk,
        List.filter_cons_of_pos (by simpa using hk), List.append_assoc, List.singleton_append]
      -- The key that has just been put does not come up again.
      have hsame : (keys rest).filter (· ∉ keys found ++ [k]) =
          (keys rest).filter (· ∉ keys found) := by
        refine List.filter_congr fun k' hk' => ?_
        have hne : k' ≠ k := fun h => hnot (h ▸ hk')
        simp [hne]
      rw [hsame]

end Entries

namespace Registry

variable {σ : Type} {r : Registry σ} {t : TypeId} {name : String}

theorem default?_of_not_mem (hname : name ∉ r.declaredNames t) : r.default? t name = none := by
  unfold declaredNames at hname
  unfold default?
  cases hd : r.annotation? t with
  | none => rfl
  | some d =>
    rw [hd] at hname
    show (Entries.get? d.attributes name).join = none
    rw [(Entries.get?_eq_none_iff d.attributes name).mpr hname]
    rfl

theorem declaredAttributes_eq (r : Registry σ) (a : Annotation) :
    r.declaredAttributes a = (r.declaredNames a.type).foldl (fun found k =>
      (r.attribute? a k).elim found (Entries.put found k)) [] := by
  unfold declaredAttributes
  congr 1
  funext found k
  cases r.attribute? a k <;> rfl

/-- **Among all attributes the value of each one is found**: the one at the use site, or the
    declared default. -/
theorem get?_attributes (r : Registry σ) (a : Annotation) (name : String) :
    Entries.get? (r.attributes a) name = r.attribute? a name := by
  have hdeclared : Entries.get? (r.declaredAttributes a) name =
      if name ∈ r.declaredNames a.type then r.attribute? a name else none := by
    rw [declaredAttributes_eq, Entries.get?_putEach, Entries.get?_nil, Option.or_none]
  have hwritten : Entries.get? a.attributes name = a.get? name := rfl
  unfold attributes
  rw [Entries.get?_putMissing, hdeclared, hwritten]
  unfold attribute?
  cases hget : a.get? name with
  | some v => by_cases hname : name ∈ r.declaredNames a.type <;> simp [hname]
  | none =>
    by_cases hname : name ∈ r.declaredNames a.type
    · simp [hname]
    · simp [hname, default?_of_not_mem hname]

/-! ## Where a value comes from -/

variable {a : Annotation} {v : AttrValue}

/-- A declared default is the one that the declaration has in its list. -/
theorem default?_eq_some_iff (hnodup : (r.declaredNames t).Nodup) :
    r.default? t name = some v ↔
      ∃ d, r.annotation? t = some d ∧ (name, some v) ∈ d.attributes := by
  unfold declaredNames at hnodup
  unfold default?
  cases hd : r.annotation? t with
  | none => simp
  | some d =>
    rw [hd] at hnodup
    show (Entries.get? d.attributes name).join = some v ↔ _
    rw [Option.join_eq_some_iff]
    constructor
    · exact fun hget => ⟨d, rfl, Entries.mem_of_get? hget⟩
    · rintro ⟨d', hd', hmem⟩
      cases hd'
      exact Entries.get?_of_mem hnodup hmem

/-- The value of an attribute is the one written at the use site; if there is none, it is the
    declared default. -/
theorem attribute?_eq_some_iff (hwritten : (Entries.keys a.attributes).Nodup)
    (hdeclared : (r.declaredNames a.type).Nodup) :
    r.attribute? a name = some v ↔
      (name, v) ∈ a.attributes ∨
        name ∉ Entries.keys a.attributes ∧
          ∃ d, r.annotation? a.type = some d ∧ (name, some v) ∈ d.attributes := by
  rw [← default?_eq_some_iff hdeclared]
  unfold attribute?
  cases hget : a.get? name with
  | some w =>
    have hmem : (name, w) ∈ a.attributes := Entries.mem_of_get? hget
    have hkey : name ∈ Entries.keys a.attributes := List.mem_map.mpr ⟨_, hmem, rfl⟩
    constructor
    · intro h
      cases h
      exact .inl hmem
    · rintro (hv | ⟨hnot, -⟩)
      · exact hget.symm.trans (Entries.get?_of_mem hwritten hv)
      · exact absurd hkey hnot
  | none =>
    have hkey : name ∉ Entries.keys a.attributes := (Entries.get?_eq_none_iff _ _).mp hget
    constructor
    · exact fun h => .inr ⟨hkey, h⟩
    · rintro (hv | ⟨-, h⟩)
      · exact absurd (List.mem_map.mpr ⟨_, hv, rfl⟩) hkey
      · exact h

/-- What is written at the use site has a value. -/
theorem isSome_attribute?_of_mem (hname : name ∈ Entries.keys a.attributes) :
    (r.attribute? a name).isSome = true := by
  unfold attribute?
  cases hget : a.get? name with
  | some v => rfl
  | none => exact absurd hname ((Entries.get?_eq_none_iff _ _).mp hget)

/-! ## The order of the values -/

theorem keys_declaredAttributes (hdeclared : (r.declaredNames a.type).Nodup) :
    Entries.keys (r.declaredAttributes a) =
      (r.declaredNames a.type).filter fun name => (r.attribute? a name).isSome := by
  rw [declaredAttributes_eq,
    Entries.keys_putEach (r.attribute? a) hdeclared fun _ _ => List.not_mem_nil]
  rfl

/-- The declared attributes that have a value come first, as they are declared; those that
    are only written come after them, as they are written. -/
theorem keys_attributes (hwritten : (Entries.keys a.attributes).Nodup)
    (hdeclared : (r.declaredNames a.type).Nodup) :
    Entries.keys (r.attributes a) =
      ((r.declaredNames a.type).filter fun name => (r.attribute? a name).isSome) ++
        (Entries.keys a.attributes).filter (· ∉ r.declaredNames a.type) := by
  unfold attributes
  rw [Entries.keys_putMissing hwritten, keys_declaredAttributes hdeclared]
  congr 1
  -- A declared name that is written has a value, so it is among the first ones.
  refine List.filter_congr fun name hname => ?_
  simp [isSome_attribute?_of_mem hname]

theorem nodup_keys_attributes (hwritten : (Entries.keys a.attributes).Nodup)
    (hdeclared : (r.declaredNames a.type).Nodup) :
    (Entries.keys (r.attributes a)).Nodup := by
  rw [keys_attributes hwritten hdeclared]
  refine List.nodup_append.mpr ⟨hdeclared.filter _, hwritten.filter _, ?_⟩
  intro name hname other hother hsame
  have hin : name ∈ r.declaredNames a.type := (List.mem_filter.mp hname).1
  have hout : other ∉ r.declaredNames a.type := by simpa using (List.mem_filter.mp hother).2
  exact hout (hsame ▸ hin)

/-- **The two views of an annotation's attributes agree.** Both the names at the use site and
    the names in the declaration are the distinct keys of a map. Then a name has the same
    value whether it is asked for or looked up among all: what the use site gives it, or else
    what the declaration does. No name comes up twice among all values. They begin with the
    declared attributes in the order of the declaration and end with the others in the order
    of the use site, all of which is there. -/
theorem attribute_views_agree (r : Registry σ) (a : Annotation)
    (hwritten : (Entries.keys a.attributes).Nodup)
    (hdeclared : (r.declaredNames a.type).Nodup) :
    (∀ name, Entries.get? (r.attributes a) name = r.attribute? a name) ∧
    (∀ name v, r.attribute? a name = some v ↔
      (name, v) ∈ a.attributes ∨
        name ∉ Entries.keys a.attributes ∧
          ∃ d, r.annotation? a.type = some d ∧ (name, some v) ∈ d.attributes) ∧
    (Entries.keys (r.attributes a)).Nodup ∧
    Entries.keys (r.attributes a) =
      ((r.declaredNames a.type).filter fun name => (r.attribute? a name).isSome) ++
        (Entries.keys a.attributes).filter (· ∉ r.declaredNames a.type) ∧
    ∀ entry ∈ a.attributes, entry ∈ r.attributes a := by
  refine ⟨r.get?_attributes a, fun name v => attribute?_eq_some_iff hwritten hdeclared,
    nodup_keys_attributes hwritten hdeclared, keys_attributes hwritten hdeclared, ?_⟩
  rintro ⟨name, v⟩ hmem
  refine Entries.mem_of_get? ?_
  rw [r.get?_attributes a]
  exact (attribute?_eq_some_iff hwritten hdeclared).mpr (.inl hmem)

end Registry

namespace Sample.Defaulted

/-- A type with a default for the first of its attributes only. -/
def registry : Registry Unit where
  types := Registry.builtinTypes ++ [{
    name := "Range"
    package := "demo"
    kind := .annotationType {
      attributes := [("min", some (.int 0)), ("max", none), ("unit", none)] } }]

/-- The declared order is turned around, and a name is added that is not declared. -/
def range : Annotation where
  type := ⟨34⟩
  attributes := [("note", .str "percent"), ("unit", .str "%")]

end Sample.Defaulted

namespace Registry

open Sample.Defaulted

theorem attribute_views_agree_sample :
    (Entries.keys range.attributes).Nodup ∧ (registry.declaredNames range.type).Nodup ∧
      Entries.keys (registry.attributes range) = ["min", "unit", "note"] := by
  have hwritten : (Entries.keys range.attributes).Nodup := by decide
  have hdeclared : (registry.declaredNames range.type).Nodup := by decide
  obtain ⟨-, -, -, horder, -⟩ := attribute_views_agree registry range hwritten hdeclared
  exact ⟨hwritten, hdeclared, horder.trans (by decide)⟩

end Registry

end AnnotationGuards
