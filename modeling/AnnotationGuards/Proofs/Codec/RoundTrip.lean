import AnnotationGuards.Codec.Config
import AnnotationGuards.Codec.Member
import AnnotationGuards.Codec.Value
import AnnotationGuards.Proofs.Codec.Shapes

/-! # Data reads back

    What is written as a data text is read from it again: the same value, with the
    attributes of every annotation in their order. Floating-point numbers are left out, as
    their literals are rounded when they are read.

    * `Value.Exact`, `AttrValue.Exact`: values without floating-point numbers.
    * `Decode.value?_value`, `Decode.attrValue?_attrValue`, `Decode.genericType?_genericType`
      and the rest: trees are decoded to what they have been encoded from, in as many
      levels as they nest.
    * `RoundTrips`: the same for whole texts, which may nest `Decode.levels` deep.
    * `data_reads_back`: all parts of the data model read back. -/

namespace AnnotationGuards

/-! ## Values without floating-point numbers -/

/-- There is no floating-point number in the value. -/
inductive Value.Exact : Value → Prop
  | null : Exact .null
  | boolean (b : Bool) : Exact (.boolean b)
  | byte (i : Int8) : Exact (.byte i)
  | short (i : Int16) : Exact (.short i)
  | char (c : Char) : Exact (.char c)
  | int (i : Int32) : Exact (.int i)
  | long (i : Int64) : Exact (.long i)
  | str (s : String) : Exact (.str s)
  | list {items : List Value} (h : ∀ v ∈ items, Exact v) : Exact (.list items)
  | object (type : TypeId) (repr : String) : Exact (.object type repr)

/-- There is no floating-point number in the attribute value, and no annotation in it has
    two attributes of one name. -/
inductive AttrValue.Exact : AttrValue → Prop
  | bool (b : Bool) : Exact (.bool b)
  | int (i : Int64) : Exact (.int i)
  | str (s : String) : Exact (.str s)
  | type (t : TypeId) : Exact (.type t)
  | array {items : List AttrValue} (h : ∀ v ∈ items, Exact v) : Exact (.array items)
  | nested (t : TypeId) {attributes : List (String × AttrValue)}
    (hkeys : (Entries.keys attributes).Nodup) (h : ∀ field ∈ attributes, Exact field.2) :
    Exact (.nested t attributes)

/-- The same of an annotation. -/
def Annotation.Exact (a : Annotation) : Prop := (AttrValue.ofAnnotation a).Exact

def Param.Exact (p : Param) : Prop := ∀ a ∈ p.annotations, a.Exact

def Member.Exact (m : Member) : Prop := (∀ p ∈ m.params, p.Exact) ∧ ∀ a ∈ m.annotations, a.Exact

/-! ## Values -/

theorem Encode.values_eq (items : List Value) : values items = items.map value := by
  induction items with
  | nil => rfl
  | cons v rest ih => rw [values, ih, List.map_cons]

theorem Value.Exact.isPlain {v : Value} (h : v.Exact) : (Encode.value v).IsPlain := by
  induction h with
  | null => exact .str "Null"
  | boolean b => exact .alternative (.bool b)
  | byte i => exact .alternative (.int _)
  | short i => exact .alternative (.int _)
  | char c => exact .alternative (.str _)
  | int i => exact .alternative (.int _)
  | long i => exact .alternative (.int _)
  | str s => exact .alternative (.str s)
  | list h ih =>
    rw [Encode.value, Encode.values_eq]
    exact .alternative (.array_map ih)
  | object type repr =>
    refine .alternative (.record ?_)
    simp only [List.forall_mem_cons]
    exact ⟨.int _, .str repr, List.forall_mem_nil _⟩

namespace Decode

/-- **A value is decoded** from how it is encoded, in as many levels as that nests. -/
theorem value?_value {v : Value} (h : v.Exact) (level : Nat)
    (hdepth : (Encode.value v).depth ≤ level) : value? level (Encode.value v) = some v := by
  induction h generalizing level with
  | null => cases level <;> rfl
  | boolean b =>
    obtain ⟨n, rfl, -⟩ := Json.exists_of_depth_alternative_le hdepth
    rfl
  | byte i =>
    obtain ⟨n, rfl, -⟩ := Json.exists_of_depth_alternative_le hdepth
    have hmin := i.le_toInt
    have hmax := i.toInt_lt
    show (integer? (-128) 127 (.int i.toInt)).map (fun i => Value.byte (Int8.ofInt i)) = _
    rw [map_integer?_int _ (by omega) (by omega) (by omega) (by omega), Int8.ofInt_toInt]
  | short i =>
    obtain ⟨n, rfl, -⟩ := Json.exists_of_depth_alternative_le hdepth
    have hmin := i.le_toInt
    have hmax := i.toInt_lt
    show (integer? (-32768) 32767 (.int i.toInt)).map (fun i => Value.short (Int16.ofInt i)) = _
    rw [map_integer?_int _ (by omega) (by omega) (by omega) (by omega), Int16.ofInt_toInt]
  | char c =>
    obtain ⟨n, rfl, -⟩ := Json.exists_of_depth_alternative_le hdepth
    show (char? (.str c.toString)).map Value.char = _
    rw [char?_str, Option.map_some]
  | int i =>
    obtain ⟨n, rfl, -⟩ := Json.exists_of_depth_alternative_le hdepth
    have hmin := i.le_toInt
    have hmax := i.toInt_lt
    show (integer? (-2147483648) 2147483647 (.int i.toInt)).map (fun i => Value.int (Int32.ofInt i)) = _
    rw [map_integer?_int _ (by omega) (by omega) (by omega) (by omega), Int32.ofInt_toInt]
  | long i =>
    obtain ⟨n, rfl, -⟩ := Json.exists_of_depth_alternative_le hdepth
    have hmin := i.le_toInt
    have hmax := i.toInt_lt
    show (integer? (-9223372036854775808) 9223372036854775807 (.int i.toInt)).map (fun i => Value.long (Int64.ofInt i)) = _
    rw [map_integer?_int _ (by omega) (by omega) (by omega) (by omega), Int64.ofInt_toInt]
  | str s =>
    obtain ⟨n, rfl, -⟩ := Json.exists_of_depth_alternative_le hdepth
    rfl
  | @list items h ih =>
    have hencode : Encode.value (.list items) =
        Encode.alternative "List" (.array (items.map Encode.value)) := by
      rw [Encode.value, Encode.values_eq]
    rw [hencode] at hdepth ⊢
    -- The alternative opens a level and the array another one; the items have the rest.
    obtain ⟨n, rfl, hcontent⟩ := Json.exists_of_depth_alternative_le hdepth
    obtain ⟨n, rfl, hitems⟩ := Json.exists_of_depth_array_le hcontent
    show ((items.map Encode.value).mapM (value? n)).map Value.list = _
    rw [mapM_encoded ih hitems, Option.map_some]
  | object type repr =>
    obtain ⟨n, rfl, hcontent⟩ := Json.exists_of_depth_alternative_le hdepth
    obtain ⟨n, rfl, -⟩ := Json.exists_of_depth_record_le hcontent
    have hfields : fullRecord? ["class", "repr"]
        (.record [("class", Encode.typeId type), ("repr", .str repr)]) =
          some [Encode.typeId type, .str repr] := fullRecord?_record (by simp)
    show object? (n + 1) (.record [("class", Encode.typeId type), ("repr", .str repr)]) = _
    rw [object?, hfields]
    dsimp only
    rw [typeId?_typeId]
    rfl

end Decode

/-! ## Annotations -/

theorem Encode.attrValues_eq (items : List AttrValue) : attrValues items = items.map attrValue := by
  induction items with
  | nil => rfl
  | cons v rest ih => rw [attrValues, ih, List.map_cons]

theorem Encode.namedAttrValues_eq (attributes : List (String × AttrValue)) :
    namedAttrValues attributes =
      attributes.map fun field => (some field.1, attrValue field.2) := by
  induction attributes with
  | nil => rfl
  | cons field rest ih => rw [namedAttrValues, ih, List.map_cons]

/-- Attributes are written as a record of them. -/
theorem Encode.object_namedAttrValues (attributes : List (String × AttrValue)) :
    Json.object (namedAttrValues attributes) =
      .record (attributes.map fun field => (field.1, attrValue field.2)) := by
  rw [namedAttrValues_eq, Json.record, List.map_map]
  rfl

/-- An annotation opens two levels: one for the record, and one for its attributes. -/
theorem Json.exists_of_depth_annotation_le {a : Annotation} {level : Nat}
    (h : (Encode.annotation a).depth ≤ level) :
    ∃ n, level = n + 2 ∧ ∀ field ∈ a.attributes, (Encode.attrValue field.2).depth ≤ n := by
  obtain ⟨n, rfl, hfields⟩ := exists_of_depth_record_le h
  have hattributes : (Json.object (Encode.namedAttrValues a.attributes)).depth ≤ n :=
    hfields ("attributes", .object (Encode.namedAttrValues a.attributes)) (by simp)
  rw [Encode.object_namedAttrValues] at hattributes
  obtain ⟨n, rfl, hvalues⟩ := exists_of_depth_record_le hattributes
  exact ⟨n, rfl, fun field hfield => hvalues _ (List.mem_map_of_mem hfield)⟩

theorem isPlain_of_attributes {a : Annotation}
    (h : ∀ field ∈ a.attributes, (Encode.attrValue field.2).IsPlain) :
    (Encode.annotation a).IsPlain := by
  unfold Encode.annotation
  rw [Encode.object_namedAttrValues]
  refine .record ?_
  simp only [List.forall_mem_cons]
  refine ⟨.int _, .record ?_, List.forall_mem_nil _⟩
  intro written hwritten
  obtain ⟨named, hnamed, rfl⟩ := List.mem_map.mp hwritten
  exact h named hnamed

theorem AttrValue.Exact.isPlain {v : AttrValue} (h : v.Exact) :
    (Encode.attrValue v).IsPlain := by
  induction h with
  | bool b => exact .alternative (.bool b)
  | int i => exact .alternative (.int _)
  | str s => exact .alternative (.str s)
  | type t => exact .alternative (.int _)
  | array h ih =>
    rw [Encode.attrValue, Encode.attrValues_eq]
    exact .alternative (.array_map ih)
  | @nested t attributes hkeys h ih => exact .alternative (@isPlain_of_attributes ⟨t, attributes⟩ ih)

namespace Decode

/-- An annotation is decoded, with its attributes in order, if what is written in them is. -/
theorem annotationWith?_of_attributes {a : Annotation} (hkeys : (Entries.keys a.attributes).Nodup)
    {decode : Json → Option AttrValue}
    (hdecode : ∀ field ∈ a.attributes, decode (Encode.attrValue field.2) = some field.2) :
    annotationWith? decode (Encode.annotation a) = some a := by
  have hfields : fullRecord? ["type_id", "attributes"] (Encode.annotation a) =
      some [Encode.typeId a.type, .object (Encode.namedAttrValues a.attributes)] :=
    fullRecord?_record (by simp)
  have hattributes : attributes? decode (.object (Encode.namedAttrValues a.attributes)) =
      some a.attributes := by
    have heach : ∀ field ∈ a.attributes,
        namedAttrValue? decode (some field.1, Encode.attrValue field.2) = some (id field) := by
      intro field hfield
      unfold namedAttrValue?
      rw [hdecode field hfield]
      rfl
    -- As no name stands twice, putting down the attributes keeps them and their order.
    rw [Encode.namedAttrValues_eq, attributes?, mapM_map_eq_some heach, List.map_id,
      Option.map_some, Entries.ofPairs_of_nodup hkeys]
  unfold annotationWith?
  rw [hfields]
  dsimp only
  rw [typeId?_typeId, hattributes]
  rfl

/-- **An attribute value is decoded** from how it is encoded. -/
theorem attrValue?_attrValue {v : AttrValue} (h : v.Exact) (level : Nat)
    (hdepth : (Encode.attrValue v).depth ≤ level) :
    attrValue? level (Encode.attrValue v) = some v := by
  induction h generalizing level with
  | bool b =>
    obtain ⟨n, rfl, -⟩ := Json.exists_of_depth_alternative_le hdepth
    rfl
  | int i =>
    obtain ⟨n, rfl, -⟩ := Json.exists_of_depth_alternative_le hdepth
    have hmin := i.le_toInt
    have hmax := i.toInt_lt
    show (integer? (-9223372036854775808) 9223372036854775807 (.int i.toInt)).map
      (fun i => AttrValue.int (Int64.ofInt i)) = _
    rw [map_integer?_int _ (by omega) (by omega) (by omega) (by omega), Int64.ofInt_toInt]
  | str s =>
    obtain ⟨n, rfl, -⟩ := Json.exists_of_depth_alternative_le hdepth
    rfl
  | type t =>
    obtain ⟨n, rfl, -⟩ := Json.exists_of_depth_alternative_le hdepth
    show (typeId? (Encode.typeId t)).map AttrValue.type = _
    rw [typeId?_typeId, Option.map_some]
  | @array items h ih =>
    have hencode : Encode.attrValue (.array items) =
        Encode.alternative "Array" (.array (items.map Encode.attrValue)) := by
      rw [Encode.attrValue, Encode.attrValues_eq]
    rw [hencode] at hdepth ⊢
    obtain ⟨n, rfl, hcontent⟩ := Json.exists_of_depth_alternative_le hdepth
    obtain ⟨n, rfl, hitems⟩ := Json.exists_of_depth_array_le hcontent
    show ((items.map Encode.attrValue).mapM (attrValue? n)).map AttrValue.array = _
    rw [mapM_encoded ih hitems, Option.map_some]
  | @nested t attributes hkeys h ih =>
    -- Three levels are opened before the values of the attributes.
    obtain ⟨n, rfl, hcontent⟩ := Json.exists_of_depth_alternative_le hdepth
    obtain ⟨n, rfl, hvalues⟩ := @Json.exists_of_depth_annotation_le ⟨t, attributes⟩ _ hcontent
    have hread := @annotationWith?_of_attributes ⟨t, attributes⟩ hkeys (attrValue? n)
      fun field hfield => ih field hfield n (hvalues field hfield)
    show (annotationWith? (attrValue? n) (Encode.annotation ⟨t, attributes⟩)).map
      AttrValue.ofAnnotation = _
    rw [hread, Option.map_some]
    rfl

/-- **An annotation is decoded** from how it is encoded. -/
theorem annotation?_annotation {a : Annotation} (h : a.Exact) (level : Nat)
    (hdepth : (Encode.annotation a).depth ≤ level) :
    annotation? level (Encode.annotation a) = some a := by
  obtain ⟨n, rfl, hvalues⟩ := Json.exists_of_depth_annotation_le hdepth
  cases h with
  | nested t hkeys hattributes =>
    exact annotationWith?_of_attributes hkeys fun field hfield =>
      attrValue?_attrValue (hattributes field hfield) n (hvalues field hfield)

end Decode

theorem Annotation.Exact.isPlain {a : Annotation} (h : a.Exact) :
    (Encode.annotation a).IsPlain := by
  cases h with
  | nested t hkeys hattributes =>
    exact isPlain_of_attributes fun field hfield => (hattributes field hfield).isPlain

/-! ## Generic types -/

/-- What holds of a type if it holds of its arguments holds of every type. -/
@[elab_as_elim]
theorem GenericType.induct {motive : GenericType → Prop}
    (mk : ∀ raw arguments, (∀ t ∈ arguments, motive t) → motive (.mk raw arguments))
    (t : GenericType) : motive t :=
  t.rec (motive_1 := motive) (motive_2 := fun ts => ∀ t ∈ ts, motive t) mk (by simp)
    fun _ _ hfirst hrest => List.forall_mem_cons.mpr ⟨hfirst, hrest⟩

theorem Encode.genericTypes_eq (ts : List GenericType) :
    genericTypes ts = ts.map genericType := by
  induction ts with
  | nil => rfl
  | cons t rest ih => rw [genericTypes, ih, List.map_cons]

theorem isPlain_genericType (t : GenericType) : (Encode.genericType t).IsPlain := by
  induction t using GenericType.induct with
  | mk raw arguments ih =>
    rw [Encode.genericType, Encode.genericTypes_eq]
    refine .record ?_
    simp only [List.forall_mem_cons]
    exact ⟨.int _, .array_map ih, List.forall_mem_nil _⟩

/-- **A generic type is decoded** from how it is encoded. -/
theorem Decode.genericType?_genericType (t : GenericType) (level : Nat)
    (hdepth : (Encode.genericType t).depth ≤ level) :
    genericType? level (Encode.genericType t) = some t := by
  induction t using GenericType.induct generalizing level with
  | mk raw arguments ih =>
    rw [Encode.genericType, Encode.genericTypes_eq] at hdepth ⊢
    obtain ⟨n, rfl, hfields⟩ := Json.exists_of_depth_record_le hdepth
    have harguments : (Json.array (arguments.map Encode.genericType)).depth ≤ n :=
      hfields ("arguments", .array (arguments.map Encode.genericType)) (by simp)
    obtain ⟨n, rfl, hitems⟩ := Json.exists_of_depth_array_le harguments
    have hcomponents : fullRecord? ["raw", "arguments"]
        (.record [("raw", Encode.typeId raw),
          ("arguments", .array (arguments.map Encode.genericType))]) =
        some [Encode.typeId raw, .array (arguments.map Encode.genericType)] :=
      fullRecord?_record (by simp)
    rw [genericType?, hcomponents]
    dsimp only [elements?]
    rw [typeId?_typeId, Option.bind_some, mapM_encoded ih hitems]
    rfl

/-! ## Members -/

theorem Param.Exact.isPlain {p : Param} (h : p.Exact) : (Encode.param p).IsPlain := by
  refine .record ?_
  simp only [List.forall_mem_cons]
  exact ⟨.str p.name, isPlain_genericType p.type, .array_map fun a ha => (h a ha).isPlain,
    List.forall_mem_nil _⟩

theorem Member.Exact.isPlain {m : Member} (h : m.Exact) : (Encode.member m).IsPlain := by
  have hkind : (Encode.memberKind m.kind).IsPlain := by
    cases m.kind <;> exact .str _
  refine .record ?_
  simp only [List.forall_mem_cons]
  exact ⟨hkind, .str m.name, .array_map fun p hp => (h.1 p hp).isPlain,
    isPlain_genericType m.returnType, .array_map fun a ha => (h.2 a ha).isPlain,
    List.forall_mem_nil _⟩

namespace Decode

theorem listOf_annotations {annotations : List Annotation} (h : ∀ a ∈ annotations, a.Exact)
    {level : Nat} (hdepth : (Json.array (annotations.map Encode.annotation)).depth ≤ level) :
    listOf annotation? level (.array (annotations.map Encode.annotation)) = some annotations :=
  listOf_array (fun a ha => annotation?_annotation (h a ha)) hdepth

/-- **A parameter is decoded** from how it is encoded. -/
theorem param?_param {p : Param} (h : p.Exact) (level : Nat)
    (hdepth : (Encode.param p).depth ≤ level) : param? level (Encode.param p) = some p := by
  obtain ⟨n, rfl, hfields⟩ := Json.exists_of_depth_record_le hdepth
  simp only [List.forall_mem_cons] at hfields
  obtain ⟨-, htype, hannotations, -⟩ := hfields
  have hcomponents : fullRecord? ["name", "ty", "annotations"] (Encode.param p) =
      some [.str p.name, Encode.genericType p.type,
        .array (p.annotations.map Encode.annotation)] := fullRecord?_record (by simp)
  rw [param?, hcomponents]
  dsimp only
  rw [genericType?_genericType p.type n htype, listOf_annotations h hannotations]
  rfl

theorem memberKind?_memberKind (kind : MemberKind) (level : Nat) :
    memberKind? level (Encode.memberKind kind) = some kind := by
  cases kind <;> rfl

/-- **A member is decoded** from how it is encoded. -/
theorem member?_member {m : Member} (h : m.Exact) (level : Nat)
    (hdepth : (Encode.member m).depth ≤ level) : member? level (Encode.member m) = some m := by
  obtain ⟨n, rfl, hfields⟩ := Json.exists_of_depth_record_le hdepth
  simp only [List.forall_mem_cons] at hfields
  obtain ⟨-, -, hparams, htype, hannotations, -⟩ := hfields
  have hcomponents :
      fullRecord? ["kind", "name", "params", "return_type", "annotations"] (Encode.member m) =
        some [Encode.memberKind m.kind, .str m.name, .array (m.params.map Encode.param),
          Encode.genericType m.returnType, .array (m.annotations.map Encode.annotation)] :=
    fullRecord?_record (by simp)
  rw [member?, hcomponents]
  dsimp only
  rw [memberKind?_memberKind, listOf_array (fun p hp => param?_param (h.1 p hp)) hparams,
    genericType?_genericType m.returnType n htype, listOf_annotations h.2 hannotations]
  rfl

/-! ## Slots and configurations -/

/-- **A slot is decoded** from how it is encoded. -/
theorem slot?_slot (s : Slot) (level : Nat) (hdepth : (Encode.slot s).depth ≤ level) :
    slot? level (Encode.slot s) = some s := by
  cases s with
  | param i =>
    obtain ⟨n, rfl, -⟩ := Json.exists_of_depth_alternative_le hdepth
    have hlt := i.toNat_lt
    show (integer? 0 65535 (.int i.toNat)).map (fun i => Slot.param (UInt16.ofNat i.toNat)) = _
    rw [map_integer?_int _ (by omega) (by omega) (by omega) (by omega), Int.toNat_natCast,
      UInt16.ofNat_toNat]
  | returned => rfl

/-- **A configuration is decoded** from how it is encoded. -/
theorem config?_config (c : GuardConfig) (level : Nat)
    (hdepth : (Encode.config c).depth ≤ level) : config? level (Encode.config c) = some c := by
  obtain ⟨n, rfl, hfields⟩ := Json.exists_of_depth_record_le hdepth
  simp only [List.forall_mem_cons] at hfields
  have hpackages : listOf (fun _ => string?) n (.array (c.handlerPackages.map Json.str)) =
      some c.handlerPackages := listOf_array (fun _ _ _ _ => rfl) hfields.1
  have hlt := c.maxValueLength.toNat_lt
  have hcomponents :
      record? ["handler_packages", "contain_handler_panics", "max_value_len"]
          (Encode.config c) =
        some [some (.array (c.handlerPackages.map Json.str)), some (.bool c.containPanics),
          some (.int c.maxValueLength.toNat)] := record?_record (by simp)
  rw [config?, hcomponents]
  dsimp only [orDefault]
  rw [hpackages, map_integer?_int _ (by omega) (by omega) (by omega) (by omega)]
  simp [bool?]

end Decode

theorem isPlain_slot (s : Slot) : (Encode.slot s).IsPlain := by
  cases s with
  | param i => exact .alternative (.int _)
  | returned => exact .str "Return"

theorem isPlain_config (c : GuardConfig) : (Encode.config c).IsPlain := by
  refine .record ?_
  simp only [List.forall_mem_cons]
  exact ⟨.array_map fun s _ => .str s, .bool c.containPanics, .int _, List.forall_mem_nil _⟩

/-! ## Texts -/

/-- The text of the data is read as the same data again, if it nests fewer than 128
    levels deep. -/
def RoundTrips {α : Type} (encode : α → Json) (decode : Nat → Json → Option α) (x : α) : Prop :=
  (encode x).depth < 128 →
    (Json.parse? (encode x).text).bind (decode Decode.levels) = some x

/-- What is decoded from its tree is read from its text, as the tree is. -/
theorem roundTrips_of_decode {α : Type} {encode : α → Json} {decode : Nat → Json → Option α}
    {x : α} (hplain : (encode x).IsPlain)
    (hdecode : ∀ level, (encode x).depth ≤ level → decode level (encode x) = some x) :
    RoundTrips encode decode x := by
  intro hdepth
  rw [Json.parse?_text hplain, Option.bind_some]
  exact hdecode Decode.levels (Nat.le_of_lt_succ hdepth)

/-- **Data reads back.** Every part of the data model that holds no floating-point number,
    and whose text nests fewer than 128 levels deep, is read from its text as it is,
    with the attributes of its annotations in their order. -/
theorem data_reads_back :
    (∀ v : Value, v.Exact → RoundTrips Encode.value Decode.value? v) ∧
    (∀ v : AttrValue, v.Exact → RoundTrips Encode.attrValue Decode.attrValue? v) ∧
    (∀ a : Annotation, a.Exact → RoundTrips Encode.annotation Decode.annotation? a) ∧
    (∀ t : GenericType, RoundTrips Encode.genericType Decode.genericType? t) ∧
    (∀ p : Param, p.Exact → RoundTrips Encode.param Decode.param? p) ∧
    (∀ m : Member, m.Exact → RoundTrips Encode.member Decode.member? m) ∧
    (∀ s : Slot, RoundTrips Encode.slot Decode.slot? s) ∧
    ∀ c : GuardConfig, RoundTrips Encode.config Decode.config? c := by
  refine ⟨?_, ?_, ?_, ?_, ?_, ?_, ?_, ?_⟩
  · exact fun v h => roundTrips_of_decode h.isPlain (Decode.value?_value h)
  · exact fun v h => roundTrips_of_decode h.isPlain (Decode.attrValue?_attrValue h)
  · exact fun a h => roundTrips_of_decode h.isPlain (Decode.annotation?_annotation h)
  · exact fun t => roundTrips_of_decode (isPlain_genericType t) (Decode.genericType?_genericType t)
  · exact fun p h => roundTrips_of_decode h.isPlain (Decode.param?_param h)
  · exact fun m h => roundTrips_of_decode h.isPlain (Decode.member?_member h)
  · exact fun s => roundTrips_of_decode (isPlain_slot s) (Decode.slot?_slot s)
  · exact fun c => roundTrips_of_decode (isPlain_config c) (Decode.config?_config c)

/-- An annotation in an array in an annotation, with names and texts that are escaped, and
    the least integer. -/
def Annotation.intricate : Annotation where
  type := ⟨40⟩
  attributes := [
    ("z\"\n", .array [.nested .guardMarker [("b", .int Int64.minValue), ("a", .str "\x01\\ü")]]),
    ("types", .type .list)]

theorem Annotation.exact_intricate : Annotation.intricate.Exact := by
  have hinner : (AttrValue.nested .guardMarker
      [("b", .int Int64.minValue), ("a", .str "\x01\\ü")]).Exact := by
    refine .nested _ (by decide) ?_
    simp only [List.forall_mem_cons]
    exact ⟨.int _, .str _, List.forall_mem_nil _⟩
  have hitems := List.forall_mem_cons.mpr ⟨hinner, List.forall_mem_nil _⟩
  refine .nested _ (by decide) (List.forall_mem_cons.mpr ⟨.array hitems, ?_⟩)
  simp only [List.forall_mem_cons]
  exact ⟨.type _, List.forall_mem_nil _⟩

/-- The intricate annotation reads back. -/
theorem data_reads_back_intricate :
    (Json.parse? (Encode.annotation .intricate).text).bind
        (Decode.annotation? Decode.levels) = some .intricate :=
  data_reads_back.2.2.1 .intricate Annotation.exact_intricate (by decide)

end AnnotationGuards
