import Mathlib.Data.List.Basic

/-! # Delimited texts

    A text that runs up to the first character of a kind can be cut off in one way only, and
    texts that are joined by a separator can be told apart again, as long as none of them is
    empty or holds the first character of the separator.

    * `Text.append_cons_inj`: the cut at the first delimiter.
    * **`Text.intercalate_inj`**: the joined texts. -/

namespace AnnotationGuards.Text

variable {delimiter : Char} {before before' after after' rest : List Char}

/-- There is one way to cut a text at the first delimiter. -/
theorem append_cons_inj (hbefore : delimiter ∉ before) (hbefore' : delimiter ∉ before')
    (heq : before ++ delimiter :: after = before' ++ delimiter :: after') :
    before = before' ∧ after = after' := by
  have hplace : ∀ {start : List Char} (rest : List Char), delimiter ∉ start →
      (start ++ delimiter :: rest).idxOf delimiter = start.length := by
    intro start rest hstart
    rw [List.idxOf_append_of_notMem hstart, List.idxOf_cons_self, Nat.add_zero]
  have hlength : before.length = before'.length := by
    rw [← hplace after hbefore, heq, hplace after' hbefore']
  obtain ⟨hsame, hrest⟩ := List.append_inj heq hlength
  exact ⟨hsame, (List.cons.inj hrest).2⟩

/-- Joined texts begin with the first of them. -/
theorem intercalate_cons_ne_nil {separator text : List Char} (texts : List (List Char))
    (htext : text ≠ []) : separator.intercalate (text :: texts) ≠ [] := by
  cases texts with
  | nil =>
    rw [List.intercalate_singleton]
    exact htext
  | cons =>
    rw [List.intercalate_cons_cons, List.append_assoc]
    exact List.append_ne_nil_of_left_ne_nil htext _

/-- More than one joined text holds the first character of the separator. -/
theorem mem_intercalate_cons_cons (delimiter : Char) (rest text text' : List Char)
    (texts : List (List Char)) :
    delimiter ∈ (delimiter :: rest).intercalate (text :: text' :: texts) := by
  rw [List.intercalate_cons_cons]
  simp

/-- **Joined texts can be told apart**, as many as there are: none of them is empty, and the
    first character of the separator occurs in none. -/
theorem intercalate_inj {texts texts' : List (List Char)}
    (h : ∀ text ∈ texts, text ≠ [] ∧ delimiter ∉ text)
    (h' : ∀ text ∈ texts', text ≠ [] ∧ delimiter ∉ text)
    (heq : (delimiter :: rest).intercalate texts = (delimiter :: rest).intercalate texts') :
    texts = texts' := by
  induction texts generalizing texts' with
  | nil =>
    cases texts' with
    | nil => rfl
    | cons text' texts' =>
      have hne := (h' text' List.mem_cons_self).1
      exact absurd heq.symm (intercalate_cons_ne_nil texts' hne)
  | cons text texts ih =>
    have htext := h text List.mem_cons_self
    match texts, texts' with
    | _, [] => exact absurd heq (intercalate_cons_ne_nil _ htext.1)
    | [], [text'] =>
      rw [List.intercalate_singleton, List.intercalate_singleton] at heq
      rw [heq]
    -- One text does not hold a separator, and several do.
    | [], text' :: next' :: texts' =>
      have hmem := mem_intercalate_cons_cons delimiter rest text' next' texts'
      rw [← heq, List.intercalate_singleton] at hmem
      exact absurd hmem htext.2
    | next :: texts, [text'] =>
      have hmem := mem_intercalate_cons_cons delimiter rest text next texts
      rw [heq, List.intercalate_singleton] at hmem
      exact absurd hmem (h' text' List.mem_cons_self).2
    | next :: texts, text' :: next' :: texts' =>
      have htext' := h' text' List.mem_cons_self
      rw [List.intercalate_cons_cons, List.intercalate_cons_cons, List.append_assoc,
        List.append_assoc, List.cons_append, List.cons_append] at heq
      obtain ⟨rfl, hrest⟩ := append_cons_inj htext.2 htext'.2 heq
      have hothers := List.append_cancel_left hrest
      rw [ih (fun t ht => h t (List.mem_cons_of_mem _ ht))
        (fun t ht => h' t (List.mem_cons_of_mem _ ht)) hothers]

end AnnotationGuards.Text
