import AnnotationGuards.Json.Number

/-! # JSON

The tree of a JSON text. A tree keeps what decoding a text has to tell apart:
number literals as they are written, every field of an object in its order, and
string literals that hold half of a surrogate pair and so denote no string.
-/

namespace AnnotationGuards

/-- A JSON text as a tree. -/
inductive Json where
  | null
  | bool (b : Bool)
  | number (n : Json.Number)
  /-- A string literal; nothing if it holds an unpaired surrogate. -/
  | string (text : Option String)
  | array (items : List Json)
  | object (fields : List (Option String × Json))
  deriving Inhabited

namespace Json

/-- The literal of a string. -/
def str (s : String) : Json := .string (some s)

/-- The literal of an integer. -/
def int (i : Int) : Json := .number (.ofInteger i)

/-- An object with these fields. -/
def record (fields : List (String × Json)) : Json :=
  .object (fields.map fun field => (some field.1, field.2))

/-! ## Printing -/

/-- A character inside a string literal. Control characters are always escaped. -/
def escape (c : Char) : List Char :=
  if c = '"' then ['\\', '"']
  else if c = '\\' then ['\\', '\\']
  else if c = '\x08' then ['\\', 'b']
  else if c = '\x0c' then ['\\', 'f']
  else if c = '\n' then ['\\', 'n']
  else if c = '\r' then ['\\', 'r']
  else if c = '\t' then ['\\', 't']
  else if c.toNat < 32 then
    ['\\', 'u', '0', '0', Nat.digitChar (c.toNat / 16), Nat.digitChar (c.toNat % 16)]
  else [c]

/-- A string literal. -/
def quote (s : String) : List Char := '"' :: (s.toList.flatMap escape ++ ['"'])

/-- Texts with commas between them. -/
def commaSeparated : List (List Char) → List Char
  | [] => []
  | [text] => text
  | text :: rest => text ++ ',' :: commaSeparated rest

mutual

/-- The tree as text, without blanks. -/
def print : Json → List Char
  | .null => ['n', 'u', 'l', 'l']
  | .bool true => ['t', 'r', 'u', 'e']
  | .bool false => ['f', 'a', 'l', 's', 'e']
  | .number n => n.text.toList
  | .string text => quote (text.getD "")
  | .array items => '[' :: (commaSeparated (printAll items) ++ [']'])
  | .object fields => '\x7b' :: (commaSeparated (printFields fields) ++ ['\x7d'])

/-- The items of an array as texts. -/
def printAll : List Json → List (List Char)
  | [] => []
  | j :: rest => print j :: printAll rest

/-- The fields of an object as texts. -/
def printFields : List (Option String × Json) → List (List Char)
  | [] => []
  | (name, j) :: rest => (quote (name.getD "") ++ ':' :: print j) :: printFields rest

end

/-- The tree as a string, without blanks. -/
def text (j : Json) : String := String.ofList j.print

end Json

end AnnotationGuards
