import AnnotationGuards.Json.Parser

/-! # Printed trees read back

    Whatever the reader accepts beyond it, it reads what has been printed as the tree that
    it has been printed from. This holds of trees whose numbers are integers and whose
    string literals denote strings.

    * `Json.readUnsigned?_toDigits`: numerals read back.
    * `Json.readString?_escape`: so do string literals, whatever has to be escaped.
    * `Json.IsPlain`, `Json.ReadsBack`: the trees that are printed, and that they are read,
      from a place where the number before it is at an end.
    * `Json.parse?_text`: so the tree of a whole text is the one printed. -/

namespace AnnotationGuards.Json

/-! ## Numerals -/

/-- The value of a character as a digit. -/
def digitOf (c : Char) : Nat := c.toNat - '0'.toNat

theorem digitValue?_eq (c : Char) :
    Text.digitValue? c = if c.isDigit then some (digitOf c) else none := by
  have hdigit : ('0' ≤ c ∧ c ≤ '9') ↔ c.isDigit = true := by
    simp [Char.isDigit, Char.le_def]
  unfold Text.digitValue? digitOf
  simp only [hdigit]

/-- The text goes on with something that is no part of a number. -/
def EndsNumber (rest : List Char) : Prop :=
  ∀ c ∈ rest.head?, c.isDigit = false ∧ c ≠ '.' ∧ c ≠ 'e' ∧ c ≠ 'E'

theorem readDigits_append {digits rest : List Char} (h : ∀ c ∈ digits, c.isDigit = true)
    (hrest : EndsNumber rest) : readDigits (digits ++ rest) = (digits.map digitOf, rest) := by
  induction digits with
  | nil =>
    cases rest with
    | nil => rfl
    | cons c rest =>
      have hc := (hrest c rfl).1
      simp [readDigits, digitValue?_eq, hc]
  | cons c digits ih =>
    obtain ⟨hc, hdigits⟩ := List.forall_mem_cons.mp h
    simp [readDigits, digitValue?_eq, hc, ih hdigits]

theorem ofDigits_map (digits : List Char) :
    ofDigits (digits.map digitOf) = Nat.ofDigitChars 10 digits 0 := by
  rw [Nat.ofDigitChars_eq_foldl, ofDigits, List.foldl_map]
  rfl

theorem ofDigits_toDigits (n : Nat) : ofDigits ((Nat.toDigits 10 n).map digitOf) = n := by
  rw [ofDigits_map, Nat.ofDigitChars_toDigits (by omega) (by omega)]

/-- A numeral that starts with a zero has no other digits. -/
theorem tail_toDigits_eq_nil {n : Nat} {c : Char} {tail : List Char}
    (h : Nat.toDigits 10 n = c :: tail) (hzero : digitOf c = 0) : tail = [] := by
  induction n using Nat.strongRecOn generalizing tail with
  | ind n ih =>
    by_cases hn : n < 10
    · rw [Nat.toDigits_of_lt_base hn] at h
      exact (List.cons.inj h).2.symm
    · -- The number without its last digit would start with the same zero, and be zero.
      rw [Nat.toDigits_of_base_le (by omega) (by omega)] at h
      cases hhigh : Nat.toDigits 10 (n / 10) with
      | nil => exact absurd hhigh Nat.toDigits_ne_nil
      | cons first others =>
        rw [hhigh] at h
        obtain ⟨rfl, -⟩ := List.cons.inj h
        have hothers : others = [] := ih (n / 10) (by omega) hhigh
        have hvalue := ofDigits_toDigits (n / 10)
        rw [hhigh, hothers] at hvalue
        have hfirst : digitOf first = n / 10 := by simpa [ofDigits] using hvalue
        omega

theorem readWhole?_toDigits (n : Nat) {rest : List Char} (hrest : EndsNumber rest) :
    readWhole? (Nat.toDigits 10 n ++ rest) = some (n, rest) := by
  have hdigits : ∀ c ∈ Nat.toDigits 10 n, c.isDigit = true := fun c hc =>
    Nat.isDigit_of_mem_toDigits (by omega) (by omega) hc
  have hvalue := ofDigits_toDigits n
  unfold readWhole?
  rw [readDigits_append hdigits hrest]
  cases h : Nat.toDigits 10 n with
  | nil => exact absurd h Nat.toDigits_ne_nil
  | cons c tail =>
    rw [h] at hvalue
    by_cases hzero : digitOf c = 0
    · obtain rfl := tail_toDigits_eq_nil h hzero
      simp_all
    · simp_all

/-- **Numerals read back**, with no fraction and no exponent. -/
theorem readUnsigned?_toDigits (negative : Bool) (n : Nat) {rest : List Char}
    (hrest : EndsNumber rest) : readUnsigned? negative (Nat.toDigits 10 n ++ rest) =
      some (⟨negative, n, [], none⟩, rest) := by
  have hfraction : readFraction? rest = some ([], rest) := by
    unfold readFraction?
    split
    · next tail => exact absurd rfl (hrest '.' rfl).2.1
    · rfl
  have hexponent : readExponent? rest = some (none, rest) := by
    cases rest with
    | nil => rfl
    | cons c tail =>
      obtain ⟨-, -, he, hE⟩ := hrest c rfl
      simp [readExponent?, he, hE]
  simp [readUnsigned?, readWhole?_toDigits n hrest, hfraction, hexponent]

/-- The literal of an integer, as it is written. -/
theorem toList_text_ofInteger (i : Int) : (Number.ofInteger i).text.toList =
    (if i < 0 then ['-'] else []) ++ Nat.toDigits 10 i.natAbs := by
  unfold Number.text Number.ofInteger Decimal.sign
  by_cases h : i < 0 <;> simp [h, Nat.toList_repr]

theorem exists_cons_toDigits (n : Nat) :
    ∃ c tail, Nat.toDigits 10 n = c :: tail ∧ c.isDigit = true := by
  cases h : Nat.toDigits 10 n with
  | nil => exact absurd h Nat.toDigits_ne_nil
  | cons c tail =>
    have hmem : c ∈ Nat.toDigits 10 n := by simp [h]
    exact ⟨c, tail, rfl, Nat.isDigit_of_mem_toDigits (by omega) (by omega) hmem⟩

/-- **Integers read back.** -/
theorem readNumber?_ofInteger (i : Int) {rest : List Char} (hrest : EndsNumber rest) :
    readNumber? ((Number.ofInteger i).text.toList ++ rest) = some (.ofInteger i, rest) := by
  have hread := fun negative => readUnsigned?_toDigits negative i.natAbs hrest
  rw [toList_text_ofInteger]
  by_cases h : i < 0
  · simp only [h, if_true, List.cons_append, List.nil_append]
    rw [readNumber?, hread]
    simp [Number.ofInteger, h]
  · simp only [h, if_false, List.nil_append]
    obtain ⟨c, tail, hcons, hdigit⟩ := exists_cons_toDigits i.natAbs
    have hunsigned : ∀ cs, readNumber? (c :: cs) = readUnsigned? false (c :: cs) := by
      intro cs
      have hminus : c ≠ '-' := by
        rintro rfl
        cases hdigit
      simp [readNumber?, hminus]
    rw [hcons, List.cons_append, hunsigned, ← List.cons_append, ← hcons, hread]
    simp [Number.ofInteger, h]

/-! ## String literals -/

/-- How a character is read in a string literal: as itself, or as a code unit. -/
def itemOf (c : Char) : StringItem :=
  if c.toNat < 32 ∧ c ∉ ['\x08', '\x0c', '\n', '\r', '\t'] then .unit c.toNat else .char c

theorem hexValue?_digitChar {d : Nat} (h : d < 16) : hexValue? (Nat.digitChar d) = some d := by
  -- There are sixteen digits to look at.
  have hall : ∀ d < 16, hexValue? (Nat.digitChar d) = some d := by decide
  exact hall d h

theorem readItems?_letter {letter c : Char} (h : escaped? letter = some c) (cs : List Char) :
    readItems? ('\\' :: letter :: cs) =
      (readItems? cs).map fun found => (.char c :: found.1, found.2) := by
  rw [readItems?]
  · rw [h]
    cases readItems? cs <;> rfl
  · -- The letter is not the one in front of a code unit.
    rintro a b c d rest rfl
    cases h

theorem readItems?_unit {c : Char} (h : c.toNat < 32) (cs : List Char) :
    readItems? ('\\' :: 'u' :: '0' :: '0' :: Nat.digitChar (c.toNat / 16) ::
        Nat.digitChar (c.toNat % 16) :: cs) =
      (readItems? cs).map fun found => (.unit c.toNat :: found.1, found.2) := by
  have hhigh : hexValue? (Nat.digitChar (c.toNat / 16)) = some (c.toNat / 16) :=
    hexValue?_digitChar (by omega)
  have hlow : hexValue? (Nat.digitChar (c.toNat % 16)) = some (c.toNat % 16) :=
    hexValue?_digitChar (by omega)
  have hzero : hexValue? '0' = some 0 := rfl
  have hvalue : 16 * (c.toNat / 16) + c.toNat % 16 = c.toNat := Nat.div_add_mod ..
  rw [readItems?]
  simp only [hexUnit?, hzero, hhigh, hlow, Option.bind_eq_bind, Option.bind_some, Option.pure_def,
    Nat.mul_zero, Nat.zero_add, hvalue]
  cases readItems? cs <;> rfl

theorem readItems?_self {c : Char} (hquote : c ≠ '"') (hslash : c ≠ '\\') (h : 32 ≤ c.toNat)
    (cs : List Char) :
    readItems? (c :: cs) = (readItems? cs).map fun found => (.char c :: found.1, found.2) := by
  have hplain : ¬ (c = '\\' ∨ c.toNat < 32) := by
    rintro (hc | hc)
    · exact hslash hc
    · omega
  rw [readItems?]
  · rw [if_neg hplain]
    cases readItems? cs <;> rfl
  · exact hquote
  · intro a b c d rest hc _
    exact hslash hc
  · intro c rest hc _
    exact hslash hc

/-- A character reads back from how it is escaped. -/
theorem readItems?_escape (c : Char) (cs : List Char) :
    readItems? (escape c ++ cs) =
      (readItems? cs).map fun found => (itemOf c :: found.1, found.2) := by
  by_cases hletter : c ∈ ['"', '\\', '\x08', '\x0c', '\n', '\r', '\t']
  · simp only [List.mem_cons, List.not_mem_nil, or_false] at hletter
    rcases hletter with rfl | rfl | rfl | rfl | rfl | rfl | rfl
    all_goals exact readItems?_letter rfl cs
  · -- No letter stands for it, so it is written as it is, or as a code unit.
    simp only [List.mem_cons, List.not_mem_nil, or_false, not_or] at hletter
    obtain ⟨hquote, hslash, hb, hf, hn, hr, ht⟩ := hletter
    by_cases h : c.toNat < 32
    · simp [escape, itemOf, h, hquote, hslash, hb, hf, hn, hr, ht, readItems?_unit]
    · simp [escape, itemOf, h, hquote, hslash, hb, hf, hn, hr, ht,
        readItems?_self hquote hslash (Nat.le_of_not_lt h)]

/-- A code unit below all surrogates is a character by itself, whatever comes after it. -/
theorem textOfItems?_unit {u : Nat} (h : u < 0xD800) (items : List StringItem) :
    textOfItems? (.unit u :: items) = (Char.ofNat u :: ·) <$> textOfItems? items := by
  have hhigh : isHighSurrogate u = false := by
    simp [isHighSurrogate]
    omega
  have hlow : isLowSurrogate u = false := by
    simp [isLowSurrogate]
    omega
  rcases items with _ | ⟨_ | _, items⟩ <;> simp [textOfItems?, hhigh, hlow]

/-- What is read is the text. -/
theorem textOfItems?_map (cs : List Char) : textOfItems? (cs.map itemOf) = some cs := by
  induction cs with
  | nil => rfl
  | cons c cs ih =>
    rw [List.map_cons]
    by_cases h : c.toNat < 32 ∧ c ∉ ['\x08', '\x0c', '\n', '\r', '\t']
    · rw [itemOf, if_pos h, textOfItems?_unit (by omega), ih, Char.ofNat_toNat]
      rfl
    · rw [itemOf, if_neg h, textOfItems?, ih]
      rfl

/-- **String literals read back**, whatever is escaped in them. -/
theorem readString?_escape (s : String) (rest : List Char) :
    readString? (s.toList.flatMap escape ++ '"' :: rest) = some (some s, rest) := by
  have hitems : ∀ cs : List Char,
      readItems? (cs.flatMap escape ++ '"' :: rest) = some (cs.map itemOf, rest) := by
    intro cs
    induction cs with
    | nil => simp [readItems?]
    | cons c cs ih => simp [readItems?_escape, ih]
  simp [readString?, hitems, textOfItems?_map]

/-! ## Trees -/

/-- All numbers in the tree are integers, and all string literals denote strings. -/
inductive IsPlain : Json → Prop
  | null : IsPlain .null
  | bool (b : Bool) : IsPlain (.bool b)
  | int (i : Int) : IsPlain (.int i)
  | str (s : String) : IsPlain (.str s)
  | array {items : List Json} (h : ∀ j ∈ items, IsPlain j) : IsPlain (.array items)
  | record {fields : List (String × Json)} (h : ∀ field ∈ fields, IsPlain field.2) :
    IsPlain (.record fields)

/-- From where it is printed the tree is read, and nothing after it. The reader needs at most
    two steps for a character. -/
def ReadsBack (j : Json) : Prop :=
  ∀ fuel rest, 2 * j.print.length ≤ fuel → EndsNumber rest →
    readValue? fuel (j.print ++ rest) = some (j, rest)

theorem printAll_eq (items : List Json) : printAll items = items.map print := by
  induction items with
  | nil => rfl
  | cons j rest ih => rw [printAll, ih, List.map_cons]

/-- A field as it is printed. -/
def printField (field : String × Json) : List Char :=
  '"' :: (field.1.toList.flatMap escape ++ '"' :: ':' :: field.2.print)

theorem printFields_eq (fields : List (String × Json)) :
    printFields (fields.map fun field => (some field.1, field.2)) = fields.map printField := by
  induction fields with
  | nil => rfl
  | cons field rest ih => simp [printFields, ih, printField, quote]

/-- What blanks, trees other than numbers, and the end of an array start with. -/
def otherStarts : List Char := [' ', '\n', '\t', '\r', 'n', 't', 'f', '"', '[', ']', '\x7b']

theorem exists_cons_text_ofInteger (i : Int) :
    ∃ c tail, (Number.ofInteger i).text.toList = c :: tail ∧ c ∉ otherStarts := by
  rw [toList_text_ofInteger]
  obtain ⟨c, tail, hcons, hdigit⟩ := exists_cons_toDigits i.natAbs
  by_cases h : i < 0
  · exact ⟨'-', Nat.toDigits 10 i.natAbs, by simp [h], by decide⟩
  · refine ⟨c, tail, by simp [h, hcons], ?_⟩
    have hall : (otherStarts.all fun d => !d.isDigit) = true := rfl
    intro hc
    have hno := List.all_eq_true.mp hall c hc
    rw [hdigit] at hno
    cases hno

/-- A printed tree starts with no blank, and not as the end of an array. -/
theorem IsPlain.exists_print_eq {j : Json} (h : j.IsPlain) :
    ∃ c tail, j.print = c :: tail ∧ isBlank c = false ∧ c ≠ ']' := by
  cases h with
  | null => exact ⟨'n', _, rfl, rfl, by decide⟩
  | bool b => cases b <;> exact ⟨_, _, rfl, rfl, by decide⟩
  | int i =>
    obtain ⟨c, tail, hcons, hc⟩ := exists_cons_text_ofInteger i
    simp only [otherStarts, List.mem_cons, List.not_mem_nil, or_false, not_or] at hc
    exact ⟨c, tail, hcons, by simp [isBlank, hc], hc.2.2.2.2.2.2.2.2.2.1⟩
  | str s => exact ⟨'"', _, rfl, rfl, by decide⟩
  | array h => exact ⟨'[', _, rfl, rfl, by decide⟩
  | record h => exact ⟨'\x7b', _, rfl, rfl, by decide⟩

/-- A printed tree has a text, so that there is fuel for the first step of reading it. -/
theorem IsPlain.readsBack_of_step {j : Json} (hplain : j.IsPlain)
    (hstep : ∀ fuel rest, 2 * j.print.length ≤ fuel + 1 → EndsNumber rest →
      readValue? (fuel + 1) (j.print ++ rest) = some (j, rest)) : ReadsBack j := by
  intro fuel rest hfuel hrest
  obtain ⟨c, tail, hcons, -, -⟩ := hplain.exists_print_eq
  have hlength : j.print.length = tail.length + 1 := by rw [hcons, List.length_cons]
  obtain ⟨fuel, rfl⟩ : ∃ n, fuel = n + 1 := ⟨fuel - 1, by omega⟩
  exact hstep fuel rest hfuel hrest

theorem readsBack_null : ReadsBack .null := by
  refine IsPlain.null.readsBack_of_step fun fuel rest _ _ => ?_
  simp [print, readValue?, skipBlanks, isBlank]

theorem readsBack_bool (b : Bool) : ReadsBack (.bool b) := by
  refine (IsPlain.bool b).readsBack_of_step fun fuel rest _ _ => ?_
  cases b <;> simp [print, readValue?, skipBlanks, isBlank]

theorem readsBack_int (i : Int) : ReadsBack (.int i) := by
  refine (IsPlain.int i).readsBack_of_step fun fuel rest _ hrest => ?_
  -- What the literal starts with leads to no other reader than the one of numbers.
  obtain ⟨c, tail, hcons, hc⟩ := exists_cons_text_ofInteger i
  have hread := readNumber?_ofInteger i hrest
  have hprint : (Json.int i).print = c :: tail := hcons
  rw [hcons, List.cons_append] at hread
  simp only [otherStarts, List.mem_cons, List.not_mem_nil, or_false, not_or] at hc
  rw [hprint, readValue?, List.cons_append]
  simp [skipBlanks, isBlank, hc, hread, int]

theorem readsBack_str (s : String) : ReadsBack (.str s) := by
  refine (IsPlain.str s).readsBack_of_step fun fuel rest _ _ => ?_
  have hread := readString?_escape s rest
  simp [str, print, quote, readValue?, skipBlanks, isBlank, hread]

theorem endsNumber_cons {c : Char} (h : c = ',' ∨ c = ']' ∨ c = '\x7d') (rest : List Char) :
    EndsNumber (c :: rest) := by
  intro d hd
  cases hd
  rcases h with rfl | rfl | rfl <;> decide

/-- The elements of an array are read one after the other, up to its end. -/
theorem readElements?_print {items : List Json} (hne : items ≠ [])
    (hitems : ∀ j ∈ items, ReadsBack j) {fuel : Nat} (rest : List Char)
    (hfuel : 2 * (commaSeparated (items.map print)).length + 1 ≤ fuel) :
    readElements? fuel (commaSeparated (items.map print) ++ ']' :: rest) = some (items, rest) := by
  induction items generalizing fuel with
  | nil => exact absurd rfl hne
  | cons j others ih =>
    obtain ⟨hj, hothers⟩ := List.forall_mem_cons.mp hitems
    obtain ⟨fuel, rfl⟩ : ∃ n, fuel = n + 1 := ⟨fuel - 1, by omega⟩
    cases others with
    | nil =>
      simp only [List.map_cons, List.map_nil, commaSeparated] at hfuel ⊢
      rw [readElements?, hj fuel _ (by omega) (endsNumber_cons (by simp) rest)]
      simp [skipBlanks, isBlank]
    | cons next others =>
      -- The text of this item pays for the steps that reading it takes, and the comma
      -- for the one that leads to the next item.
      have hlist : commaSeparated ((j :: next :: others).map print) =
          j.print ++ ',' :: commaSeparated ((next :: others).map print) := rfl
      rw [hlist] at hfuel ⊢
      simp only [List.length_append, List.length_cons] at hfuel
      rw [List.append_assoc, List.cons_append, readElements?,
        hj fuel _ (by omega) (endsNumber_cons (by simp) _)]
      have hrest := @ih (by simp) hothers fuel (by omega)
      simp [skipBlanks, isBlank, -List.map_cons, hrest]

/-- A field is read, and then the fields after it, or the end of the object. -/
theorem readFields?_field {field : String × Json} (h : ReadsBack field.2) {fuel : Nat}
    (hfuel : 2 * (printField field).length ≤ fuel) (rest : List Char) :
    readFields? (fuel + 1) (printField field ++ ',' :: rest) =
        (readFields? fuel rest).map (fun found => ((some field.1, field.2) :: found.1, found.2)) ∧
      readFields? (fuel + 1) (printField field ++ '\x7d' :: rest) =
        some ([(some field.1, field.2)], rest) := by
  have hname := fun after => readString?_escape field.1 (':' :: (field.2.print ++ after))
  have hvalue : ∀ c, c = ',' ∨ c = ']' ∨ c = '\x7d' →
      readValue? fuel (field.2.print ++ c :: rest) = some (field.2, c :: rest) := by
    intro c hc
    refine h fuel (c :: rest) ?_ (endsNumber_cons hc rest)
    simp only [printField, List.length_cons, List.length_append] at hfuel
    omega
  simp only [printField, List.cons_append, List.append_assoc]
  constructor
  · simp [readFields?, skipBlanks, isBlank, hname, hvalue]
  · simp [readFields?, skipBlanks, isBlank, hname, hvalue]

/-- So the fields of an object are read up to its end. -/
theorem readFields?_print {fields : List (String × Json)} (hne : fields ≠ [])
    (hfields : ∀ field ∈ fields, ReadsBack field.2) {fuel : Nat} (rest : List Char)
    (hfuel : 2 * (commaSeparated (fields.map printField)).length + 1 ≤ fuel) :
    readFields? fuel (commaSeparated (fields.map printField) ++ '\x7d' :: rest) =
      some (fields.map fun field => (some field.1, field.2), rest) := by
  induction fields generalizing fuel with
  | nil => exact absurd rfl hne
  | cons field others ih =>
    obtain ⟨hfield, hothers⟩ := List.forall_mem_cons.mp hfields
    obtain ⟨fuel, rfl⟩ : ∃ n, fuel = n + 1 := ⟨fuel - 1, by omega⟩
    cases others with
    | nil =>
      simp only [List.map_cons, List.map_nil, commaSeparated] at hfuel ⊢
      exact (readFields?_field hfield (by omega) rest).2
    | cons next others =>
      have hlist : commaSeparated ((field :: next :: others).map printField) =
          printField field ++ ',' :: commaSeparated ((next :: others).map printField) := rfl
      rw [hlist] at hfuel ⊢
      simp only [List.length_append, List.length_cons] at hfuel
      rw [List.append_assoc, List.cons_append, (readFields?_field hfield (by omega) _).1,
        ih (by simp) hothers (by omega)]
      rfl

theorem readsBack_array {items : List Json} (hplain : ∀ j ∈ items, IsPlain j)
    (hitems : ∀ j ∈ items, ReadsBack j) : ReadsBack (.array items) := by
  refine (IsPlain.array hplain).readsBack_of_step fun fuel rest hfuel _ => ?_
  have hprint : (Json.array items).print =
      '[' :: (commaSeparated (items.map print) ++ [']']) := by
    rw [print, printAll_eq]
  rw [hprint] at hfuel ⊢
  simp only [List.length_cons, List.length_append] at hfuel
  cases items with
  | nil => simp [readValue?, skipBlanks, isBlank, commaSeparated]
  | cons j others =>
    have hread := @readElements?_print (j :: others) (by simp) hitems fuel rest (by omega)
    -- The text of the first item tells the array from an empty one.
    obtain ⟨c, tail, hcons, hblank, hend⟩ := (hplain j (List.mem_cons_self ..)).exists_print_eq
    obtain ⟨tail', htext⟩ : ∃ tail', commaSeparated ((j :: others).map print) = c :: tail' := by
      cases others with
      | nil => exact ⟨tail, hcons⟩
      | cons next others => exact ⟨_, congrArg (· ++ _) hcons⟩
    rw [htext, List.cons_append] at hread
    rw [htext]
    have hskip : ∀ cs, skipBlanks (c :: cs) = c :: cs := by
      intro cs
      simp [skipBlanks, hblank]
    have hopen : ∀ cs, skipBlanks ('[' :: cs) = '[' :: cs := fun _ => rfl
    simp only [List.cons_append, List.append_assoc, List.nil_append]
    rw [readValue?, hopen]
    simp [hskip, hend, hread]

theorem readsBack_record {fields : List (String × Json)}
    (hplain : ∀ field ∈ fields, IsPlain field.2)
    (hfields : ∀ field ∈ fields, ReadsBack field.2) : ReadsBack (.record fields) := by
  refine (IsPlain.record hplain).readsBack_of_step fun fuel rest hfuel _ => ?_
  have hprint : (Json.record fields).print =
      '\x7b' :: (commaSeparated (fields.map printField) ++ ['\x7d']) := by
    rw [record, print, printFields_eq]
  rw [hprint] at hfuel ⊢
  simp only [List.length_cons, List.length_append] at hfuel
  cases fields with
  | nil => simp [readValue?, skipBlanks, isBlank, commaSeparated, record]
  | cons field others =>
    have hread := @readFields?_print (field :: others) (by simp) hfields fuel rest (by omega)
    obtain ⟨tail, htext⟩ : ∃ tail,
        commaSeparated ((field :: others).map printField) = '"' :: tail := by
      cases others <;> exact ⟨_, rfl⟩
    rw [htext, List.cons_append] at hread
    rw [htext]
    simp [readValue?, skipBlanks, isBlank, hread, record]

/-- **Printed trees read back.** -/
theorem IsPlain.readsBack {j : Json} (h : j.IsPlain) : ReadsBack j := by
  -- The induction is on the tree: what is in an array or an object is read back within it.
  induction h with
  | null => exact readsBack_null
  | bool b => exact readsBack_bool b
  | int i => exact readsBack_int i
  | str s => exact readsBack_str s
  | array h ih => exact readsBack_array h ih
  | record h ih => exact readsBack_record h ih

/-- **The tree of a printed text** is the one that has been printed. -/
theorem parse?_text {j : Json} (h : j.IsPlain) : parse? j.text = some j := by
  -- The fuel is what the reader starts with, and nothing comes after the text.
  have hread := h.readsBack (2 * j.print.length + 2) [] (by omega) (by simp [EndsNumber])
  rw [List.append_nil] at hread
  simp [parse?, text, hread, skipBlanks]

end AnnotationGuards.Json
