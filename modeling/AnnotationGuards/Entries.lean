/-! # Entries

Finite maps kept as lists of key–value pairs, in the order in which the keys
were first put. Putting a key again replaces its value and keeps its place, so
the order of declaration survives every update.

The same type serves as the map of annotation attributes, as the name index of
a registry and as the table of answers that an engine has already worked out.
-/

namespace AnnotationGuards

/-- A finite map as a list of pairs, in order of first insertion. -/
abbrev Entries (κ : Type u) (α : Type v) := List (κ × α)

namespace Entries

variable {κ : Type u} {α : Type v} [DecidableEq κ]

/-- The value stored under `key`, if there is one. -/
def get? : Entries κ α → κ → Option α
  | [], _ => none
  | (k, a) :: rest, key => if k = key then some a else get? rest key

/-- Whether some value is stored under `key`. -/
def contains (entries : Entries κ α) (key : κ) : Bool :=
  (get? entries key).isSome

/-- Stores `value` under `key`: in the place of the key's earlier value, or at
the end when the key is new. -/
def put : Entries κ α → κ → α → Entries κ α
  | [], key, value => [(key, value)]
  | (k, a) :: rest, key, value =>
    if k = key then (k, value) :: rest else (k, a) :: put rest key value

/-- Removes whatever is stored under `key`. -/
def erase : Entries κ α → κ → Entries κ α
  | [], _ => []
  | (k, a) :: rest, key => if k = key then rest else (k, a) :: erase rest key

/-- The keys, in order of first insertion. -/
def keys (entries : Entries κ α) : List κ := entries.map Prod.fst

/-- Puts the pairs one after the other into an empty map. -/
def ofPairs (pairs : List (κ × α)) : Entries κ α :=
  pairs.foldl (fun entries pair => put entries pair.1 pair.2) []

/-! ## Laws of `get?` -/

@[simp] theorem get?_nil (key : κ) : get? ([] : Entries κ α) key = none := rfl

@[simp] theorem get?_cons (k : κ) (a : α) (rest : Entries κ α) (key : κ) :
    get? ((k, a) :: rest) key = if k = key then some a else get? rest key := rfl

theorem get?_put_self (entries : Entries κ α) (key : κ) (value : α) :
    get? (put entries key value) key = some value := by
  induction entries with
  | nil => simp [put]
  | cons head rest ih =>
    obtain ⟨k, a⟩ := head
    by_cases h : k = key <;> simp [put, h, ih]

theorem get?_put_of_ne (entries : Entries κ α) {key other : κ} (value : α)
    (h : key ≠ other) : get? (put entries key value) other = get? entries other := by
  induction entries with
  | nil => simp [put, h]
  | cons head rest ih =>
    obtain ⟨k, a⟩ := head
    by_cases hk : k = key
    -- The head is replaced: `other` is looked up behind it either way.
    · subst hk
      simp [put, h]
    -- The head stays, and the key is put further back.
    · simp [put, hk, ih]

@[simp] theorem get?_put (entries : Entries κ α) (key other : κ) (value : α) :
    get? (put entries key value) other =
      if key = other then some value else get? entries other := by
  by_cases h : key = other
  · subst h
    simp [get?_put_self]
  · simp [h, get?_put_of_ne entries value h]

theorem get?_eq_none_iff (entries : Entries κ α) (key : κ) :
    get? entries key = none ↔ key ∉ keys entries := by
  induction entries with
  | nil => simp [keys]
  | cons head rest ih =>
    obtain ⟨k, a⟩ := head
    simp only [keys, List.map_cons, List.mem_cons, get?_cons] at ih ⊢
    by_cases h : k = key
    · simp [h]
    · simp [h, ih, Ne.symm h]

theorem mem_of_get? {entries : Entries κ α} {key : κ} {a : α} (h : get? entries key = some a) :
    (key, a) ∈ entries := by
  induction entries with
  | nil => cases h
  | cons head rest ih =>
    obtain ⟨k, b⟩ := head
    rw [get?_cons] at h
    split at h
    · next hk =>
      subst hk
      cases h
      exact List.mem_cons_self ..
    · exact List.mem_cons_of_mem _ (ih h)

/-! ## Laws of `keys` -/

theorem keys_put_of_mem (entries : Entries κ α) {key : κ} (value : α)
    (h : key ∈ keys entries) : keys (put entries key value) = keys entries := by
  induction entries with
  | nil => simp [keys] at h
  | cons head rest ih =>
    obtain ⟨k, a⟩ := head
    by_cases hk : k = key
    · simp [put, hk, keys]
    · have hrest : key ∈ keys rest := by
        simpa [keys, Ne.symm hk] using h
      simpa [put, hk, keys] using ih hrest

theorem keys_put_of_not_mem (entries : Entries κ α) {key : κ} (value : α)
    (h : key ∉ keys entries) : keys (put entries key value) = keys entries ++ [key] := by
  induction entries with
  | nil => simp [put, keys]
  | cons head rest ih =>
    obtain ⟨k, a⟩ := head
    have hk : k ≠ key := fun e => h (by simp [keys, e])
    have hrest : key ∉ keys rest := fun e => h (by simpa [keys] using Or.inr e)
    simpa [put, hk, keys] using ih hrest

theorem nodup_keys_put {entries : Entries κ α} (h : (keys entries).Nodup) (key : κ) (value : α) :
    (keys (put entries key value)).Nodup := by
  by_cases hkey : key ∈ keys entries
  · rw [keys_put_of_mem entries value hkey]
    exact h
  · rw [keys_put_of_not_mem entries value hkey]
    refine List.nodup_append.mpr ⟨h, by simp, ?_⟩
    intro other hother new hnew hsame
    rw [List.mem_singleton.mp hnew] at hsame
    exact hkey (hsame ▸ hother)

theorem put_of_not_mem (entries : Entries κ α) {key : κ} (value : α)
    (h : key ∉ keys entries) : put entries key value = entries ++ [(key, value)] := by
  induction entries with
  | nil => rfl
  | cons head rest ih =>
    obtain ⟨k, a⟩ := head
    have hk : k ≠ key := fun e => h (by simp [keys, e])
    have hrest : key ∉ keys rest := fun e => h (by simpa [keys] using Or.inr e)
    simp [put, hk, ih hrest]

/-- Pairs in which no key stands twice are a map as they are. -/
theorem ofPairs_of_nodup {pairs : List (κ × α)} (h : (keys pairs).Nodup) :
    ofPairs pairs = pairs := by
  -- The induction goes along the pairs that are left, with those put down before them.
  have hfrom : ∀ (before : Entries κ α), (keys (before ++ pairs)).Nodup →
      pairs.foldl (fun entries pair => put entries pair.1 pair.2) before = before ++ pairs := by
    clear h
    induction pairs with
    | nil => simp
    | cons pair rest ih =>
      intro before hnodup
      have hnew : pair.1 ∉ keys before := by
        intro hmem
        simp only [keys, List.map_append, List.map_cons] at hnodup hmem
        exact (List.nodup_append.mp hnodup).2.2 _ hmem _ (List.mem_cons_self ..) rfl
      rw [List.foldl_cons, put_of_not_mem before pair.2 hnew,
        ih (before ++ [pair]) (by simpa using hnodup)]
      simp
  exact hfrom [] h

theorem get?_erase_of_ne (entries : Entries κ α) {key other : κ} (h : key ≠ other) :
    get? (erase entries key) other = get? entries other := by
  induction entries with
  | nil => rfl
  | cons head rest ih =>
    obtain ⟨k, a⟩ := head
    by_cases hk : k = key
    · subst hk
      simp [erase, h]
    · simp [erase, hk, ih]

/-- Where no key stands twice, nothing is left under a key that is removed. -/
theorem get?_erase_self {entries : Entries κ α} (h : (keys entries).Nodup) (key : κ) :
    get? (erase entries key) key = none := by
  induction entries with
  | nil => rfl
  | cons head rest ih =>
    obtain ⟨k, a⟩ := head
    obtain ⟨hnot, hrest⟩ := List.nodup_cons.mp h
    by_cases hk : k = key
    · subst hk
      simpa [erase] using (get?_eq_none_iff rest k).mpr hnot
    · simpa [erase, hk] using ih hrest

theorem keys_erase_sublist (entries : Entries κ α) (key : κ) :
    (keys (erase entries key)).Sublist (keys entries) := by
  induction entries with
  | nil => exact List.Sublist.slnil
  | cons head rest ih =>
    obtain ⟨k, a⟩ := head
    by_cases hk : k = key
    · simp [erase, hk, keys]
    · simpa [erase, hk, keys] using ih

theorem nodup_keys_erase {entries : Entries κ α} (h : (keys entries).Nodup) (key : κ) :
    (keys (erase entries key)).Nodup :=
  h.sublist (keys_erase_sublist entries key)

/-- Where no key stands twice, every pair is what its key looks up. -/
theorem get?_of_mem {entries : Entries κ α} (h : (keys entries).Nodup) {key : κ} {a : α}
    (hmem : (key, a) ∈ entries) : get? entries key = some a := by
  induction entries with
  | nil => cases hmem
  | cons head rest ih =>
    obtain ⟨k, b⟩ := head
    obtain ⟨hnot, hrest⟩ := List.nodup_cons.mp h
    rcases List.mem_cons.mp hmem with heq | hmem
    · cases heq
      simp
    · have hk : k ≠ key := by
        rintro rfl
        exact hnot (List.mem_map.mpr ⟨_, hmem, rfl⟩)
      rw [get?_cons, if_neg hk]
      exact ih hrest hmem

/-! ## Tables of answers -/

/-- Whatever stands in the table under a key is the answer of `f` for that key. -/
def Agrees (entries : Entries κ α) (f : κ → α) : Prop :=
  ∀ key a, get? entries key = some a → a = f key

theorem agrees_nil (f : κ → α) : Agrees ([] : Entries κ α) f := by
  intro key a h
  cases h

theorem Agrees.put {entries : Entries κ α} {f : κ → α} (h : Agrees entries f) (key : κ) :
    Agrees (put entries key (f key)) f := by
  intro other a hget
  rw [get?_put] at hget
  split at hget
  · next hkey =>
    subst hkey
    exact (Option.some.inj hget).symm
  · exact h other a hget

end Entries

end AnnotationGuards
