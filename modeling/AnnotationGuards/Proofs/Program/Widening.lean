import AnnotationGuards.Program.Value

/-! # Widening loses no integer

    A scalar widens to a primitive exactly if its own type does, and the casts on the
    way are never out of range: every integral type has room for the integers of the
    types that widen to it.

    * `Primitive.Holds`: the integers that an integral type has room for.
    * `Primitive.Holds.widen`: a wider type has room for more.
    * `Value.exists_widen?`: what widening comes to.
    * `Value.primitive?_eq_named?`: the name of a value's type tells its primitive.
    * **`Value.widening_coherent`**: the exact result, and that it makes no difference whether
      a scalar goes straight to a type or through another integral one. -/

namespace AnnotationGuards

/-! ## The integers of a type -/

namespace Primitive

/-- The type is one of integers. A char is its code point. -/
def isIntegral : Primitive → Bool
  | .byte | .short | .char | .int | .long => true
  | .boolean | .float | .double => false

/-- The integral type has room for the integer. -/
def Holds : Primitive → Int → Prop
  | .byte, n => -128 ≤ n ∧ n < 128
  | .short, n => -32768 ≤ n ∧ n < 32768
  | .char, n => 0 ≤ n ∧ n < 1114112
  | .int, n => -2147483648 ≤ n ∧ n < 2147483648
  | .long, n => -9223372036854775808 ≤ n ∧ n < 9223372036854775808
  | .boolean, _ | .float, _ | .double, _ => False

/-- An integral type has room for the integers of the types that widen to it. -/
theorem Holds.widen {p q : Primitive} {n : Int} (h : p.Holds n) (hwiden : p.canWiden q = true)
    (hq : q.isIntegral = true) : q.Holds n := by
  cases p <;> cases q <;> simp only [Holds] at h ⊢ <;>
    first
    | omega
    | exact absurd hwiden (by decide)
    | exact absurd hq (by decide)

/-! ### Chains -/

theorem canWiden_iff {p q : Primitive} : p.canWiden q = true ↔ q ∈ p.chain :=
  List.contains_iff_mem

/-- What stands on the chain of a type brings its own chain along. -/
theorem canWiden_trans {p q r : Primitive} (hpq : p.canWiden q = true) (hqr : q.canWiden r = true) :
    p.canWiden r = true := by
  have hclosed : ∀ q ∈ p.chain, ∀ r ∈ q.chain, r ∈ p.chain := by cases p <;> decide
  rw [canWiden_iff] at hpq hqr ⊢
  exact hclosed q hpq r hqr

/-- No chain leads back. -/
theorem canWiden_antisymm {p q : Primitive} (hpq : p.canWiden q = true)
    (hqp : q.canWiden p = true) : p = q := by
  have hforward : ∀ q ∈ p.chain, p ∈ q.chain → p = q := by cases p <;> decide
  rw [canWiden_iff] at hpq hqp
  exact hforward q hpq hqp

/-- Only integral types widen to an integral one. -/
theorem isIntegral_of_canWiden {p q : Primitive} (hwiden : p.canWiden q = true)
    (hq : q.isIntegral = true) : p.isIntegral = true := by
  have hback : ∀ q ∈ p.chain, q.isIntegral = true → p.isIntegral = true := by cases p <;> decide
  exact hback q (canWiden_iff.mp hwiden) hq

/-- The primitive of that name. -/
def named? (name : String) : Option Primitive := all.find? (·.name = name)

end Primitive

namespace Value

variable {v : Value} {p q : Primitive} {i : Int64}

/-! ## The type of a scalar -/

theorem runtimeType_eq_typeId (h : v.primitive? = some p) : v.runtimeType = p.typeId := by
  cases v <;> cases h <;> rfl

theorem ne_null_of_primitive? (h : v.primitive? = some p) : v ≠ .null := by
  intro hnull
  rw [hnull] at h
  cases h

/-- The name of a value's type tells whether it is a scalar, and of which type. -/
theorem primitive?_eq_named? (v : Value) : v.primitive? = Primitive.named? v.typeName := by
  cases v <;> rfl

theorem isNull_eq_named (v : Value) : v.isNull = decide (v.typeName = "null") := by
  cases v <;> rfl

/-! ## Numeric views -/

/-- The integer of a scalar fits its own type. -/
theorem holds_of_asInteger? (hp : v.primitive? = some p) (hi : v.asInteger? = some i) :
    p.Holds i.toInt := by
  cases v with
  | byte j =>
    cases hp; cases hi
    rw [Int8.toInt_toInt64]
    exact ⟨j.le_toInt, j.toInt_lt⟩
  | short j =>
    cases hp; cases hi
    rw [Int16.toInt_toInt64]
    exact ⟨j.le_toInt, j.toInt_lt⟩
  | char c =>
    cases hp; cases hi
    have hlt : c.toNat < 1114112 := by
      rcases c.valid with hlow | ⟨-, hhigh⟩
      · exact Nat.lt_trans hlow (by decide)
      · exact hhigh
    rw [Int64.toInt_ofNat_of_lt (by omega)]
    exact ⟨by omega, by omega⟩
  | int j =>
    cases hp; cases hi
    rw [Int32.toInt_toInt64]
    exact ⟨j.le_toInt, j.toInt_lt⟩
  | long j =>
    cases hp; cases hi
    exact ⟨i.le_toInt, i.toInt_lt⟩
  | _ => cases hi

/-- A scalar has an integer if its type is integral. -/
theorem exists_asInteger? (hp : v.primitive? = some p) (hintegral : p.isIntegral = true) :
    ∃ i, v.asInteger? = some i := by
  cases v <;> cases hp <;> first | exact ⟨_, rfl⟩ | cases hintegral

/-! ## Casts -/

/-- The cast to a short keeps an integer that is in range. -/
theorem exists_short? (h : Primitive.short.Holds i.toInt) :
    ∃ j : Int16, short? i = some (.short j) ∧ j.toInt64 = i := by
  refine ⟨i.toInt16, if_pos h, ?_⟩
  obtain ⟨hlow, hhigh⟩ := h
  apply Int64.toInt_inj.mp
  rw [Int16.toInt_toInt64, Int64.toInt_toInt16]
  exact Int.bmod_eq_of_le (by omega) (by omega)

/-- The cast to an int keeps an integer that is in range. -/
theorem exists_int? (h : Primitive.int.Holds i.toInt) :
    ∃ j : Int32, int? i = some (.int j) ∧ j.toInt64 = i := by
  refine ⟨i.toInt32, if_pos h, ?_⟩
  obtain ⟨hlow, hhigh⟩ := h
  apply Int64.toInt_inj.mp
  rw [Int32.toInt_toInt64, Int64.toInt_toInt32]
  exact Int.bmod_eq_of_le (by omega) (by omega)

/-! ## Widening -/

theorem widen?_self (h : v.primitive? = some p) : v.widen? p = some v := by
  unfold widen?
  rw [h]
  exact if_pos rfl

/-- Types that widen to another type are numeric. -/
theorem exists_asFloat? (h : v.primitive? = some p) (hne : p ≠ .boolean) :
    ∃ x, v.asFloat? = some x := by
  cases v <;> cases h <;> first | exact ⟨_, rfl⟩ | exact absurd rfl hne

/-- **Widening** a scalar along the chain of its type always succeeds. The result is
    a scalar of the wider type, with the same integer if that type is integral. -/
theorem exists_widen? (h : v.primitive? = some p) (hwiden : p.canWiden q = true) :
    ∃ w, v.widen? q = some w ∧ w.primitive? = some q ∧
      (q.isIntegral = true → w.asInteger? = v.asInteger?) := by
  by_cases hsame : p = q
  · -- A value of the type itself is passed as it is.
    subst hsame
    exact ⟨v, widen?_self h, h, fun _ => rfl⟩
  · unfold widen?
    rw [h]
    dsimp only
    rw [if_neg hsame, if_neg (not_not_intro hwiden)]
    have hfloat : ∃ x, v.asFloat? = some x := by
      refine exists_asFloat? h ?_
      rintro rfl
      exact hsame (by cases q <;> first | rfl | exact absurd hwiden (by decide))
    have hinteger : q.isIntegral = true → ∃ i, v.asInteger? = some i ∧ q.Holds i.toInt := by
      intro hq
      obtain ⟨i, hi⟩ := exists_asInteger? h (Primitive.isIntegral_of_canWiden hwiden hq)
      exact ⟨i, hi, (holds_of_asInteger? h hi).widen hwiden hq⟩
    cases q with
    | short =>
      obtain ⟨i, hi, hholds⟩ := hinteger rfl
      obtain ⟨j, hj, hback⟩ := exists_short? hholds
      exact ⟨.short j, by rw [hi]; exact hj, rfl, fun _ => by rw [hi, ← hback]; rfl⟩
    | int =>
      obtain ⟨i, hi, hholds⟩ := hinteger rfl
      obtain ⟨j, hj, hback⟩ := exists_int? hholds
      exact ⟨.int j, by rw [hi]; exact hj, rfl, fun _ => by rw [hi, ← hback]; rfl⟩
    | long =>
      obtain ⟨i, hi, -⟩ := hinteger rfl
      exact ⟨.long i, by rw [hi]; rfl, rfl, fun _ => hi.symm⟩
    | float =>
      obtain ⟨x, hx⟩ := hfloat
      exact ⟨.float x.toFloat32, by rw [hx]; rfl, rfl, fun hq => by cases hq⟩
    | double =>
      obtain ⟨x, hx⟩ := hfloat
      exact ⟨.double x, by rw [hx]; rfl, rfl, fun hq => by cases hq⟩
    | boolean | byte | char =>
      -- No other type widens to these.
      exact absurd (by cases p <;> first | rfl | exact absurd hwiden (by decide)) hsame

/-- A value widens to a primitive exactly if it is a scalar whose type does. -/
theorem widen?_eq_none_iff (v : Value) (q : Primitive) :
    v.widen? q = none ↔ ∀ p, v.primitive? = some p → p.canWiden q = false := by
  constructor
  · intro hnone p hp
    cases hwiden : p.canWiden q with
    | false => rfl
    | true =>
      obtain ⟨w, hw, -⟩ := exists_widen? hp hwiden
      rw [hnone] at hw
      cases hw
  · intro hnot
    unfold widen?
    cases hp : v.primitive? with
    | none => rfl
    | some p =>
      have hwiden : p.canWiden q = false := hnot p hp
      have hne : p ≠ q := by
        rintro rfl
        exact absurd hwiden (by cases p <;> decide)
      dsimp only
      rw [if_neg hne, if_pos (by rw [hwiden]; decide)]

/-- What comes of widening is a scalar of the type asked for. -/
theorem primitive?_of_widen? {w : Value} (h : v.widen? q = some w) : w.primitive? = some q := by
  have hwidens : v.widen? q ≠ none := by
    rw [h]
    exact Option.some_ne_none w
  cases hp : v.primitive? with
  | none =>
    refine absurd ((widen?_eq_none_iff v q).mpr ?_) hwidens
    intro p hp'
    rw [hp] at hp'
    cases hp'
  | some p =>
    cases hwiden : p.canWiden q with
    | false =>
      refine absurd ((widen?_eq_none_iff v q).mpr ?_) hwidens
      intro p' hp'
      rw [hp] at hp'
      cases hp'
      exact hwiden
    | true =>
      obtain ⟨w', hw', hprimitive, -⟩ := exists_widen? hp hwiden
      rw [h] at hw'
      cases hw'
      exact hprimitive

/-- What does not widen is told by the name of the value's type. -/
theorem widen?_eq_none_of_typeName {w : Value} (h : v.typeName = w.typeName) :
    v.widen? q = none ↔ w.widen? q = none := by
  rw [widen?_eq_none_iff, widen?_eq_none_iff, primitive?_eq_named? v, primitive?_eq_named? w, h]

/-! ## Widening in steps -/

/-- An integral scalar has its integer, rounded, as its double. -/
theorem asFloat?_eq (hp : v.primitive? = some p) (hintegral : p.isIntegral = true) :
    v.asFloat? = v.asInteger?.map (·.toFloat) := by
  cases v <;> cases hp <;> first | rfl | cases hintegral

/-- Two integral scalars of one integer come to the same in any type that is neither's own. -/
theorem widen?_congr {w : Value} {p' : Primitive} (hp : v.primitive? = some p)
    (hp' : w.primitive? = some p') (hintegral : p.isIntegral = true)
    (hintegral' : p'.isIntegral = true) (hne : p ≠ q) (hne' : p' ≠ q)
    (hwiden : p.canWiden q = true) (hwiden' : p'.canWiden q = true)
    (hinteger : w.asInteger? = v.asInteger?) : w.widen? q = v.widen? q := by
  have hfloat : w.asFloat? = v.asFloat? := by
    rw [asFloat?_eq hp hintegral, asFloat?_eq hp' hintegral', hinteger]
  unfold widen?
  simp only [hp, hp', hne, hne', hwiden, hwiden', hinteger, hfloat, if_false]

/-- From an integral type on, a scalar goes where it would have gone by itself. -/
theorem widen?_widen? {a : Primitive} {w : Value} (hp : v.primitive? = some p)
    (ha : a.isIntegral = true) (hpa : p.canWiden a = true) (haq : a.canWiden q = true)
    (hw : v.widen? a = some w) : w.widen? q = v.widen? q := by
  obtain ⟨w', hw', hprimitive, hsame⟩ := exists_widen? hp hpa
  rw [hw] at hw'
  cases hw'
  have hinteger : w.asInteger? = v.asInteger? := hsame ha
  by_cases hown : p = a
  · -- Widened to its own type the scalar is what it was.
    subst hown
    rw [widen?_self hp] at hw
    cases hw
    rfl
  by_cases hlast : a = q
  · subst hlast
    rw [widen?_self hprimitive, hw]
  · have hne : p ≠ q := by
      rintro rfl
      exact hown (Primitive.canWiden_antisymm hpa haq)
    exact widen?_congr hp hprimitive (Primitive.isIntegral_of_canWiden hpa ha) ha hne hlast
      (Primitive.canWiden_trans hpa haq) haq hinteger

/-- **Widening is exact and coherent.** For any value the following holds.

    1. It widens to a primitive exactly if it is a scalar and that primitive stands on the
       chain of its type. So no cast on the way is ever out of range.
    2. What comes of it is a scalar of the primitive asked for: the value itself where that is
       its own type; and the same integer where that is an integral type.
    3. It may go to an integral type first and on from there: the result is the one of
       going there straight. -/
theorem widening_coherent (v : Value) :
    (∀ q, (v.widen? q).isSome = true ↔
      ∃ p, v.primitive? = some p ∧ p.canWiden q = true) ∧
    (∀ q w, v.widen? q = some w → w.primitive? = some q ∧
      (v.primitive? = some q → w = v) ∧
      (q.isIntegral = true → ∃ i, v.asInteger? = some i ∧ w.asInteger? = some i)) ∧
    ∀ p a q, v.primitive? = some p → a.isIntegral = true → p.canWiden a = true →
      a.canWiden q = true →
        ∃ w u, v.widen? a = some w ∧ w.widen? q = some u ∧ v.widen? q = some u := by
  have hdefined : ∀ q, (v.widen? q).isSome = true ↔
      ∃ p, v.primitive? = some p ∧ p.canWiden q = true := by
    intro q
    rw [Option.isSome_iff_ne_none, Ne, widen?_eq_none_iff]
    simp
  refine ⟨hdefined, ?_, ?_⟩
  · intro q w hw
    obtain ⟨p, hp, hwiden⟩ := (hdefined q).mp (by rw [hw]; rfl)
    obtain ⟨w', hw', hprimitive, hinteger⟩ := exists_widen? hp hwiden
    rw [hw] at hw'
    cases hw'
    refine ⟨hprimitive, ?_, ?_⟩
    · intro hown
      rw [widen?_self hown] at hw
      exact (Option.some.inj hw).symm
    · intro hq
      obtain ⟨i, hi⟩ := exists_asInteger? hp (Primitive.isIntegral_of_canWiden hwiden hq)
      exact ⟨i, hi, (hinteger hq).trans hi⟩
  · intro p a q hp ha hpa haq
    obtain ⟨w, hw, -⟩ := exists_widen? hp hpa
    obtain ⟨u, hu, -⟩ := exists_widen? hp (Primitive.canWiden_trans hpa haq)
    exact ⟨w, u, hw, (widen?_widen? hp ha hpa haq hw).trans hu, hu⟩

/-- The last code point and the least byte keep their number. An int that no float has room
    for comes to one float, by way of a long or straight. -/
theorem widening_coherent_extremes :
    (Value.char ⟨0x10ffff, by decide⟩).widen? .int = some (.int 1114111) ∧
    (Value.char ⟨0x10ffff, by decide⟩).widen? .short = none ∧
    (Value.byte (-128)).widen? .long = some (.long (-128)) ∧
    ∃ u, (Value.long 16777217).widen? .float = some u ∧
      (Value.int 16777217).widen? .float = some u := by
  have hshort : (Value.char ⟨0x10ffff, by decide⟩).widen? .short = none := by
    rw [← Option.not_isSome_iff_eq_none, (widening_coherent _).1 .short]
    rintro ⟨p, hp, hwiden⟩
    cases hp
    cases hwiden
  have hlong : (Value.int 16777217).widen? .long = some (.long 16777217) := rfl
  obtain ⟨w, u, hw, hthrough, hstraight⟩ :=
    (widening_coherent (.int 16777217)).2.2 .int .long .float rfl rfl rfl rfl
  rw [hlong] at hw
  cases hw
  exact ⟨rfl, hshort, rfl, u, hthrough, hstraight⟩

end Value

end AnnotationGuards
