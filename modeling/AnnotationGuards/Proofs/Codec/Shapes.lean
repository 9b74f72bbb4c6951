import AnnotationGuards.Codec.Basic
import AnnotationGuards.Proofs.Json.Reading

/-! # Shapes of data

    Data texts are built of a few shapes: records, choices, lists and atoms. Each shape is
    decoded to what it has been built from, and takes up as many levels as decoding it
    opens.

    * `Json.depth`: how deep arrays and objects nest in a tree.
    * `Json.exists_of_depth_array_le` and its kin: what opens a level has one to open, and
      its content fits in the levels below.
    * `Decode.fullRecord?_record`, `Decode.map_integer?_int`, `Decode.listOf_array`: the shapes
      are decoded. -/

namespace AnnotationGuards

/-! ## Depth -/

namespace Json

mutual

/-- How many arrays and objects are open at once in the tree, at most. -/
def depth : Json → Nat
  | .null | .bool _ | .number _ | .string _ => 0
  | .array items => depthOfItems items + 1
  | .object fields => depthOfFields fields + 1

/-- The depth of the deepest item. -/
def depthOfItems : List Json → Nat
  | [] => 0
  | j :: rest => max (depth j) (depthOfItems rest)

/-- The depth of the deepest field. -/
def depthOfFields : List (Option String × Json) → Nat
  | [] => 0
  | (_, j) :: rest => max (depth j) (depthOfFields rest)

end

theorem depthOfItems_le_iff {items : List Json} {n : Nat} :
    depthOfItems items ≤ n ↔ ∀ j ∈ items, j.depth ≤ n := by
  induction items with
  | nil => simp [depthOfItems]
  | cons j rest ih => rw [depthOfItems, Nat.max_le, ih, List.forall_mem_cons]

theorem depthOfFields_le_iff {fields : List (String × Json)} {n : Nat} :
    depthOfFields (fields.map fun field => (some field.1, field.2)) ≤ n ↔
      ∀ field ∈ fields, field.2.depth ≤ n := by
  induction fields with
  | nil => simp [depthOfFields]
  | cons field rest ih =>
    rw [List.map_cons, depthOfFields, Nat.max_le, ih, List.forall_mem_cons]

variable {level : Nat}

/-- An array opens a level, and its items have the levels below. -/
theorem exists_of_depth_array_le {items : List Json} (h : (Json.array items).depth ≤ level) :
    ∃ n, level = n + 1 ∧ ∀ j ∈ items, j.depth ≤ n := by
  rw [depth] at h
  exact ⟨level - 1, by omega, depthOfItems_le_iff.mp (by omega)⟩

/-- So does a record, for its components. -/
theorem exists_of_depth_record_le {fields : List (String × Json)}
    (h : (record fields).depth ≤ level) :
    ∃ n, level = n + 1 ∧ ∀ field ∈ fields, field.2.depth ≤ n := by
  rw [record, depth] at h
  exact ⟨level - 1, by omega, depthOfFields_le_iff.mp (by omega)⟩

/-- So does an alternative, for its content. -/
theorem exists_of_depth_alternative_le {name : String} {content : Json}
    (h : (Encode.alternative name content).depth ≤ level) :
    ∃ n, level = n + 1 ∧ content.depth ≤ n := by
  obtain ⟨n, hn, hfields⟩ := exists_of_depth_record_le h
  exact ⟨n, hn, hfields (name, content) (List.mem_singleton_self _)⟩

theorem IsPlain.alternative {name : String} {content : Json} (h : content.IsPlain) :
    (Encode.alternative name content).IsPlain := by
  refine .record fun field hfield => ?_
  obtain rfl := List.mem_singleton.mp hfield
  exact h

theorem IsPlain.array_map {α : Type} {encode : α → Json} {xs : List α}
    (h : ∀ x ∈ xs, (encode x).IsPlain) : (Json.array (xs.map encode)).IsPlain := by
  refine .array fun j hj => ?_
  obtain ⟨x, hx, rfl⟩ := List.mem_map.mp hj
  exact h x hx

end Json

/-! ## Lists -/

/-- Where each item is decoded to what it has been made from, so is the list. -/
theorem mapM_map_eq_some {α β γ : Type} {make : α → β} {decode : β → Option γ} {result : α → γ}
    {xs : List α} (h : ∀ x ∈ xs, decode (make x) = some (result x)) :
    (xs.map make).mapM decode = some (xs.map result) := by
  induction xs with
  | nil => rfl
  | cons x rest ih =>
    obtain ⟨hx, hrest⟩ := List.forall_mem_cons.mp h
    simp [List.mapM_cons, hx, ih hrest]

namespace Decode

variable {level : Nat}

/-- Items that are decoded in any number of levels that is enough for them. -/
theorem mapM_encoded {α : Type} {encode : α → Json} {decode : Nat → Json → Option α} {xs : List α}
    (hdecode : ∀ x ∈ xs, ∀ level, (encode x).depth ≤ level →
      decode level (encode x) = some x)
    (hdepth : ∀ j ∈ xs.map encode, j.depth ≤ level) :
    (xs.map encode).mapM (decode level) = some xs := by
  have heach : ∀ x ∈ xs, decode level (encode x) = some (id x) := fun x hx =>
    hdecode x hx level (hdepth _ (List.mem_map_of_mem hx))
  rw [mapM_map_eq_some heach, List.map_id]

theorem listOf_array {α : Type} {encode : α → Json} {decode : Nat → Json → Option α}
    {xs : List α} (hdecode : ∀ x ∈ xs, ∀ level, (encode x).depth ≤ level →
      decode level (encode x) = some x)
    (hdepth : (Json.array (xs.map encode)).depth ≤ level) :
    listOf decode level (.array (xs.map encode)) = some xs := by
  obtain ⟨n, rfl, hitems⟩ := Json.exists_of_depth_array_le hdepth
  exact mapM_encoded hdecode hitems

/-! ## Records -/

theorem fieldsNamed_of_not_mem {fields : List (String × Json)} {name : String}
    (h : name ∉ fields.map Prod.fst) :
    fieldsNamed name (fields.map fun field => (some field.1, field.2)) = [] := by
  simp only [fieldsNamed, List.map_eq_nil_iff, List.filter_eq_nil_iff]
  intro field hfield hname
  obtain ⟨found, hfound, rfl⟩ := List.mem_map.mp hfield
  have hsame : found.1 = name := by simpa using hname
  exact h (hsame ▸ List.mem_map_of_mem hfound)

/-- Where no name stands twice, each names its own component. -/
theorem fieldsNamed_eq_singleton {fields : List (String × Json)}
    (h : (fields.map Prod.fst).Nodup) {field : String × Json} (hfield : field ∈ fields) :
    fieldsNamed field.1 (fields.map fun field => (some field.1, field.2)) = [field.2] := by
  induction fields with
  | nil => cases hfield
  | cons first rest ih =>
    obtain ⟨hnot, hrest⟩ := List.nodup_cons.mp h
    rcases List.mem_cons.mp hfield with rfl | hmem
    · have hothers := fieldsNamed_of_not_mem hnot
      unfold fieldsNamed at hothers ⊢
      simp [hothers]
    · have hne : first.1 ≠ field.1 := by
        intro hsame
        exact hnot (hsame ▸ List.mem_map_of_mem hmem)
      have hothers := ih hrest hmem
      unfold fieldsNamed at hothers ⊢
      simp [hne, hothers]

theorem field?_record {fields : List (String × Json)} (h : (fields.map Prod.fst).Nodup)
    {field : String × Json} (hfield : field ∈ fields) :
    field? (fields.map fun field => (some field.1, field.2)) field.1 = some (some field.2) := by
  unfold field?
  rw [fieldsNamed_eq_singleton h hfield]

/-- The components of a record are found under their names. -/
theorem record?_record {fields : List (String × Json)} (h : (fields.map Prod.fst).Nodup) :
    record? (fields.map Prod.fst) (.record fields) =
      some (fields.map fun field => some field.2) := by
  have hproper : ((fields.map fun field => (some field.1, field.2)).all
      fun field => field.1.isSome) = true := by
    simp
  unfold record? Json.record
  dsimp only
  rw [if_pos hproper]
  exact mapM_map_eq_some fun field hfield => field?_record h hfield

theorem fullRecord?_record {fields : List (String × Json)} (h : (fields.map Prod.fst).Nodup) :
    fullRecord? (fields.map Prod.fst) (.record fields) = some (fields.map Prod.snd) := by
  unfold fullRecord?
  rw [record?_record h]
  exact mapM_map_eq_some fun _ _ => rfl

/-! ## Atoms -/

/-- **Integers are decoded** within their bounds, which are those of 64 bits at most. -/
theorem map_integer?_int {α : Type} (make : Int → α) {least most i : Int} (hleast : least ≤ i)
    (hmost : i ≤ most) (hmin : -9223372036854775808 ≤ i) (hmax : i < 18446744073709551616) :
    (integer? least most (.int i)).map make = some (make i) := by
  have hvalue : (Json.Number.ofInteger i).asInteger? = some i := by
    have hsize : UInt64.size = 18446744073709551616 := rfl
    unfold Json.Number.asInteger? Json.Number.ofInteger
    dsimp only
    rw [if_neg (by simp)]
    by_cases hneg : i < 0
    · rw [if_pos (decide_eq_true hneg), if_pos (by omega)]
      congr 1
      omega
    · rw [if_neg (by simpa using hneg), if_pos (by omega)]
      congr 1
      omega
  have hread : integer? least most (.int i) = some i := by
    simp [integer?, Json.int, hvalue, hleast, hmost]
  rw [hread, Option.map_some]

theorem typeId?_typeId (t : TypeId) : typeId? (Encode.typeId t) = some t := by
  have hlt : t.toNat < 4294967296 := t.val.toNat_lt
  unfold typeId? Encode.typeId
  rw [map_integer?_int _ (by omega) (by omega) (by omega) (by omega)]
  simp

theorem char?_str (c : Char) : char? (.str c.toString) = some c := by
  simp [char?, string?, Json.str]

end Decode

end AnnotationGuards
