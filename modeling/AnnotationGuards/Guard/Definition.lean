import AnnotationGuards.Guard.HandlerLookup
import AnnotationGuards.Guard.Verdicts

/-! # Guard definitions

All that the engine needs to know of a guard annotation type: what its marker
says, if it carries one, and which guards it is composed of. A definition is
worked out once for each type and then kept, errors included.

## Contents

- `GuardDefinition` and its `Marking`
- `GuardDefinition.assemble`: the definition of a type that is known to be a guard
- `DefinitionTable.definitionFor`: the definition of any type, kept in a table
-/

namespace AnnotationGuards

/-- What the guard marker on an annotation type says. -/
structure Marking where
  /-- The template of the guard's message; without one the annotation is shown. -/
  template : Option String
  /-- The handler sees null values as well. -/
  testsNull : Bool
  /-- Related guards. An ordering hint that dispatch does not use. -/
  relations : List TypeId
  /-- A rank. An ordering hint that dispatch does not use. -/
  order : Int64
  handler : TypeId
  deriving DecidableEq, Repr, Inhabited

/-- The definition of a guard annotation type. -/
structure GuardDefinition where
  type : TypeId
  /-- The qualified name of the type. -/
  name : String
  /-- What the type's own marker says; nothing for a guard that is only composed
  of others. -/
  marking : Option Marking
  /-- The guard annotations on the type, in order. -/
  implied : List Annotation
  deriving Inhabited

/-- The definition of a type, nothing if it is no guard, or what is wrong with it. -/
abbrev DefinitionResult := Except GuardError (Option GuardDefinition)

namespace GuardDefinition

variable {σ : Type}

/-- Reads a guard marker on the annotation type `t`. -/
def readMarker (r : Registry σ) (config : GuardConfig) (t : TypeId) (marker : Annotation) :
    Except GuardError Marking := do
  let value := r.attribute? marker
  let handler ← r.resolveHandler config t marker
  pure {
    template :=
      ((value MarkerAttribute.message).bind AttrValue.asStr?).filter fun m => !m.isEmpty
    testsNull := ((value MarkerAttribute.testsNull).bind AttrValue.asBool?).getD false
    relations := ((value MarkerAttribute.relations).map AttrValue.asTypes).getD []
    order := ((value MarkerAttribute.order).bind AttrValue.asInt?).getD 0
    handler }

/-- The guard annotations among metas. The marker and the language's own metas are
passed over without asking; the first circular one ends the search. -/
def impliedGuards (r : Registry σ) : VerdictTable → List Annotation →
    Except Circularity (List Annotation) × VerdictTable
  | table, [] => (.ok [], table)
  | table, m :: rest =>
    if m.type = .guardMarker || m.type.isLanguageMeta then impliedGuards r table rest
    else
      match VerdictTable.isGuard r table m.type with
      | (.error cycle, table) => (.error cycle, table)
      | (.ok guard, table) =>
        match impliedGuards r table rest with
        | (.error cycle, table) => (.error cycle, table)
        | (.ok found, table) => (.ok (if guard then m :: found else found), table)

/-- The definition of the guard type `t` with these metas and implied guards. The
first marker counts. -/
def assemble (r : Registry σ) (config : GuardConfig) (t : TypeId) (metas implied : List Annotation) :
    Except GuardError GuardDefinition := do
  let marking ←
    match metas.find? fun m => m.type = .guardMarker with
    | some marker => some <$> readMarker r config t marker
    | none => pure none
  pure { type := t, name := r.qualifiedName t, marking, implied }

/-- Works out the definition of a type, with the verdicts reached on the way. -/
def build (r : Registry σ) (config : GuardConfig) (table : VerdictTable) (t : TypeId) :
    DefinitionResult × VerdictTable :=
  match VerdictTable.isGuard r table t with
  | (.error cycle, table) => (.error (.circular (r.qualifiedName t) cycle), table)
  | (.ok false, table) => (.ok none, table)
  | (.ok true, table) =>
    match r.annotation? t with
    | none => (.error (.unknownType t), table)
    | some d =>
      match impliedGuards r table d.metas with
      | (.error cycle, table) => (.error (.circular (r.qualifiedName t) cycle), table)
      | (.ok implied, table) => (some <$> assemble r config t d.metas implied, table)

end GuardDefinition

/-- The definitions worked out so far, and the verdicts behind them. -/
structure DefinitionTable where
  verdicts : VerdictTable := []
  definitions : Entries TypeId DefinitionResult := []
  deriving Inhabited

namespace DefinitionTable

variable {σ : Type}

/-- Whether a type is a guard, by the verdicts behind the definitions. -/
def isGuard (r : Registry σ) (table : DefinitionTable) (t : TypeId) : Verdict × DefinitionTable :=
  let (verdict, verdicts) := VerdictTable.isGuard r table.verdicts t
  (verdict, { table with verdicts })

/-- The definition of a type, and the table in which it stands from now on. -/
def definitionFor (r : Registry σ) (config : GuardConfig) (table : DefinitionTable) (t : TypeId) :
    DefinitionResult × DefinitionTable :=
  match Entries.get? table.definitions t with
  | some result => (result, table)
  | none =>
    let (result, verdicts) := GuardDefinition.build r config table.verdicts t
    (result, { verdicts, definitions := Entries.put table.definitions t result })

end DefinitionTable

end AnnotationGuards
