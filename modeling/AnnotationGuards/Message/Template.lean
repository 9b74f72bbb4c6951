/-! # Message templates

A template is a text with placeholders in braces. It is read in one pass, from
left to right: a placeholder runs from an opening brace to the first closing
brace after it, and an opening brace that is never closed is a plain character.
-/

namespace AnnotationGuards.Template

/-- A piece of a template. -/
inductive Piece where
  | literal (c : Char)
  | placeholder (name : String)
  deriving DecidableEq, Repr

/-- Reads a template. Inside a placeholder, `opened` holds what stands between its
opening brace and the text still to read. -/
def read (opened : Option (List Char)) (text : List Char) : List Piece :=
  match text, opened with
  | [], none => []
  | [], some name => ('{' :: name).map .literal
  | c :: rest, none =>
    if c = '{' then read (some []) rest else .literal c :: read none rest
  | c :: rest, some name =>
    if c = '}' then .placeholder (String.ofList name) :: read none rest
    else read (some (name ++ [c])) rest

/-- The pieces of a template. -/
def pieces (template : String) : List Piece := read none template.toList

end AnnotationGuards.Template
