import AnnotationGuards.Guard.Classification

/-! # Known verdicts

A table of the verdicts that have been reached. A type is classified once; from
then on its verdict stands, circularities included, whatever becomes of the
registry.
-/

namespace AnnotationGuards

/-- The verdicts reached so far. -/
abbrev VerdictTable := Entries TypeId Verdict

namespace VerdictTable

variable {σ : Type}

/-- The verdict on a type, and the table in which it stands from now on. -/
def isGuard (r : Registry σ) (table : VerdictTable) (t : TypeId) : Verdict × VerdictTable :=
  match Entries.get? table t with
  | some verdict => (verdict, table)
  | none => (classify r t, Entries.put table t (classify r t))

/-- Whether an annotation calls for a guard at its slot: its type is a guard, or
a circular one, whose slot has to be disabled. -/
def isGuardLike (r : Registry σ) (table : VerdictTable) (a : Annotation) : Bool × VerdictTable :=
  match isGuard r table a.type with
  | (.ok guard, table) => (guard, table)
  | (.error _, table) => (true, table)

/-- Whether one of the annotations calls for a guard. The annotations after the
first such one are not looked at. -/
def anyGuardLike (r : Registry σ) : VerdictTable → List Annotation → Bool × VerdictTable
  | table, [] => (false, table)
  | table, a :: rest =>
    match isGuardLike r table a with
    | (true, table) => (true, table)
    | (false, table) => anyGuardLike r table rest

end VerdictTable

end AnnotationGuards
