import AnnotationGuards.Decimal.Notation
import AnnotationGuards.Message.Template
import AnnotationGuards.Registry.Attributes

/-! # Rendering annotations

How messages show an annotation, with the defaults of its type filled in, and
how the placeholders of a template are replaced by attribute values.

A default may hold an annotation whose own defaults hold the first one again.
Such an annotation has no finite text. Every function here therefore yields a
text or nothing: the nesting of a finite text never exceeds the nesting of the
annotation itself and of all declared defaults together, so a text that goes
deeper has no end.

## Contents

- `AttrValue.depth`, `Registry.renderDepth`: how deep a finite text can nest
- `Registry.renderAttr?`, `Registry.renderAnnotation?`: the texts
- `Registry.renderTemplate?`: a template with its placeholders replaced
-/

namespace AnnotationGuards

namespace AttrValue

mutual

/-- How deep values are nested in a value. -/
def depth : AttrValue → Nat
  | .bool _ | .int _ | .double _ | .str _ | .type _ => 1
  | .array items => depthAll items + 1
  | .nested _ attributes => depthNamed attributes + 1

/-- The greatest depth in a list of values. -/
def depthAll : List AttrValue → Nat
  | [] => 0
  | v :: rest => max (depth v) (depthAll rest)

/-- The greatest depth in a list of named values. -/
def depthNamed : List (String × AttrValue) → Nat
  | [] => 0
  | (_, v) :: rest => max (depth v) (depthNamed rest)

end

end AttrValue

namespace Registry

variable {σ : Type}

/-- The depth of all defaults of a declaration together. -/
def defaultDepthOf : List (String × Option AttrValue) → Nat
  | [] => 0
  | (_, some v) :: rest => v.depth + defaultDepthOf rest
  | (_, none) :: rest => defaultDepthOf rest

/-- The depth of all declared defaults together. -/
def defaultDepth (r : Registry σ) : Nat :=
  r.types.foldr
    (fun d total =>
      match d.annotation? with
      | some a => defaultDepthOf a.attributes + total
      | none => total) 0

/-- A bound on the nesting of a finite text of an annotation. -/
def renderDepth (r : Registry σ) (a : Annotation) : Nat :=
  AttrValue.depthNamed a.attributes + r.defaultDepth + 1

/-- The text of an annotation, given that of its attribute values: its name, and
the attributes in parentheses if there are any. -/
def renderWith (r : Registry σ) (render : AttrValue → Option String) (a : Annotation) :
    Option String :=
  let name := "@" ++ r.simpleName a.type
  match r.attributes a with
  | [] => some name
  | attributes => do
    let parts ← attributes.mapM fun entry => (render entry.2).map fun text => entry.1 ++ "=" ++ text
    pure (name ++ "(" ++ ", ".intercalate parts ++ ")")

/-- The text of an attribute value that nests at most `depth` deep. Texts are put in
quotation marks where `quoted` asks for it, and always inside annotations. -/
def renderAttr? (r : Registry σ) : Nat → Bool → AttrValue → Option String
  | 0, _, _ => none
  | _ + 1, _, .bool b => some (if b then "true" else "false")
  | _ + 1, _, .int i => some (toString i.toInt)
  | _ + 1, _, .double x => some (Decimal.plain64 x)
  | _ + 1, quoted, .str s => some (if quoted then "\"" ++ s ++ "\"" else s)
  | _ + 1, _, .type t => some (r.simpleName t)
  | depth + 1, quoted, .array items => do
    let parts ← items.mapM (r.renderAttr? depth quoted)
    pure ("[" ++ ", ".intercalate parts ++ "]")
  | depth + 1, _, .nested t attributes =>
    r.renderWith (r.renderAttr? depth true) ⟨t, attributes⟩

/-- The text of an annotation, if it has an end. -/
def renderAnnotation? (r : Registry σ) (a : Annotation) : Option String :=
  r.renderWith (r.renderAttr? (r.renderDepth a) true) a

/-- The text that stands for a piece of a template. A placeholder that names no
attribute stands for itself. -/
def renderPiece? (r : Registry σ) (a : Annotation) : Template.Piece → Option String
  | .literal c => some c.toString
  | .placeholder name =>
    match Entries.get? (r.attributes a) name with
    | some v => r.renderAttr? (r.renderDepth a) false v
    -- Not an attribute: the placeholder is kept with its braces.
    | none => some ("\x7b" ++ name ++ "\x7d")

/-- A template with the attributes of an annotation in place of its placeholders,
if these have an end. What is put in is not read again. -/
def renderTemplate? (r : Registry σ) (template : String) (a : Annotation) : Option String :=
  ((Template.pieces template).mapM (r.renderPiece? a)).map String.join

end Registry

end AnnotationGuards
