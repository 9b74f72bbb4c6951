import AnnotationGuards.Chain.Target
import AnnotationGuards.Guard.Verdicts

/-! # Scanning a class

A declaring class is scanned once. Each of its members is recorded under its
signature: with its guarded slots if an annotation on the member or on one of
its parameters calls for a guard, by its shape alone if none does, and as
ambiguous if several members share the signature. An ambiguous signature is
never dispatched.

## Contents

- `SlotGuards`, `MemberGuards`: the slots of a guarded member
- `ScannedClass.scan`: the scan of a class
- `ScannedClass.slot`: the slot that a check asks for
- `ScanTable.guardsFor`: the scan of any class, kept in a table
-/

namespace AnnotationGuards

/-- A slot and the annotations that apply to it. -/
structure SlotGuards where
  target : Target
  annotations : List Annotation
  deriving Inhabited

/-- The slots of a guarded member. -/
structure MemberGuards where
  signature : String
  params : List SlotGuards
  returned : Option SlotGuards
  deriving Inhabited

/-- How many parameters a member has, and whether it returns a value. -/
structure Shape where
  params : Nat
  returnsValue : Bool
  deriving DecidableEq, Repr, Inhabited

namespace Shape

/-- The shape of a member. -/
def ofMember (m : Member) : Shape := ⟨m.params.length, m.returnsValue⟩

/-- Whether a member of this shape has the slot. -/
def has (s : Shape) : Slot → Bool
  | .param i => i.toNat < s.params
  | .returned => s.returnsValue

end Shape

namespace MemberGuards

/-- Whether one of the annotations keeps values from being shown. -/
def areSensitive (annotations : List Annotation) : Bool :=
  annotations.any fun a => a.type = .sensitive

/-- The slot of a parameter. Call sites cannot address positions that 16 bits do not
hold. -/
def paramSlot (declaring : TypeId) (signature : String) (position : Nat) (p : Param) : SlotGuards where
  target := {
    declaring
    member := signature
    slot := .param (UInt16.ofNat (min position 65535))
    name := some p.name
    type := p.type
    sensitive := areSensitive p.annotations }
  annotations := p.annotations

/-- The slot of the returned value, to which the member's own annotations apply. -/
def returnedSlot (declaring : TypeId) (signature : String) (m : Member) : SlotGuards where
  target := {
    declaring
    member := signature
    slot := .returned
    name := none
    type := m.returnType
    sensitive := areSensitive m.annotations }
  annotations := m.annotations

/-- The slots of a member. -/
def ofMember (declaring : TypeId) (signature : String) (m : Member) : MemberGuards where
  signature := signature
  params := m.params.mapIdx (paramSlot declaring signature)
  returned := if m.returnsValue then some (returnedSlot declaring signature m) else none

/-- The slot with this place in the member. -/
def slot? (m : MemberGuards) : Slot → Option SlotGuards
  | .param i => m.params[i.toNat]?
  | .returned => m.returned

/-- All slots: the parameters in order, then the returned value. -/
def slots (m : MemberGuards) : List SlotGuards := m.params ++ m.returned.toList

end MemberGuards

/-- What a scan records under a signature. -/
inductive MemberEntry where
  | unguarded (shape : Shape)
  | guarded (m : MemberGuards)
  /-- More than one member has the signature. -/
  | ambiguous
  deriving Inhabited

/-- The scan of a class: what is known of its members, by signature. -/
structure ScannedClass where
  declaring : TypeId
  members : Entries String MemberEntry
  deriving Inhabited

namespace ScannedClass

variable {σ : Type}

/-! ## Scanning -/

/-- The annotations on a member and then those on its parameters. -/
def allAnnotations (m : Member) : List Annotation :=
  m.annotations ++ m.params.flatMap Param.annotations

/-- Records a member. A signature that is already recorded becomes ambiguous, and
the annotations of its later members are not looked at. -/
def record (r : Registry σ) (declaring : TypeId) (members : Entries String MemberEntry)
    (table : VerdictTable) (m : Member) : Entries String MemberEntry × VerdictTable :=
  let signature := r.signature m
  -- The second member with a signature makes it ambiguous, and so does every later one.
  if Entries.contains members signature then (Entries.put members signature .ambiguous, table)
  else
    match VerdictTable.anyGuardLike r table (allAnnotations m) with
    | (true, table) =>
      (Entries.put members signature (.guarded (.ofMember declaring signature m)), table)
    | (false, table) => (Entries.put members signature (.unguarded (.ofMember m)), table)

/-- Records members one after the other. -/
def recordAll (r : Registry σ) (declaring : TypeId) :
    Entries String MemberEntry → VerdictTable → List Member →
      Entries String MemberEntry × VerdictTable
  | members, table, [] => (members, table)
  | members, table, m :: rest =>
    let (members, table) := record r declaring members table m
    recordAll r declaring members table rest

/-- Scans a class. -/
def scan (r : Registry σ) (table : VerdictTable) (t : TypeId) :
    Except CheckError ScannedClass × VerdictTable :=
  match r.class? t with
  | none => (.error (.internal (r.qualifiedName t ++ " is not a declared class")), table)
  | some c =>
    let (members, table) := recordAll r t [] table c.members
    (.ok ⟨t, members⟩, table)

/-! ## Looking up slots -/

/-- The guarded slots of a member. -/
def member? (s : ScannedClass) (signature : String) : Option MemberGuards :=
  match Entries.get? s.members signature with
  | some (.guarded m) => some m
  | _ => none

/-- The guarded members, in order of declaration. -/
def guardedMembers (s : ScannedClass) : List MemberGuards :=
  s.members.filterMap fun entry =>
    match entry.2 with
    | .guarded m => some m
    | _ => none

/-- The guarded members, in the order of their signatures. -/
def guardedBySignature (s : ScannedClass) : List MemberGuards :=
  s.guardedMembers.mergeSort fun m n => m.signature ≤ n.signature

/-- The error for a member or slot that cannot be addressed. -/
def unaddressable (r : Registry σ) (s : ScannedClass) (signature what : String) : CheckError :=
  .internal (r.qualifiedName s.declaring ++ "." ++ signature ++ ": " ++ what)

/-- The slot of a member, or nothing if no annotation on the member calls for a
guard. The member has to exist, to be the only one with its signature, and to have
the slot. -/
def slot (r : Registry σ) (s : ScannedClass) (signature : String) (place : Slot) :
    Except CheckError (Option SlotGuards) :=
  match Entries.get? s.members signature with
  | none => .error (s.unaddressable r signature "no such member")
  | some .ambiguous => .error (s.unaddressable r signature "signature names more than one member")
  -- Without guards the place must exist all the same.
  | some (.unguarded shape) =>
    if shape.has place then .ok none
    else .error (s.unaddressable r signature ("no slot " ++ place.text))
  | some (.guarded m) =>
    match m.slot? place with
    | some guards => .ok (some guards)
    | none => .error (s.unaddressable r signature ("no slot " ++ place.text))

end ScannedClass

/-- The classes scanned so far, errors included. -/
abbrev ScanTable := Entries TypeId (Except CheckError ScannedClass)

namespace ScanTable

variable {σ : Type}

/-- The scan of a class, with the tables in which it and the verdicts reached on the
way stand from now on. -/
def guardsFor (r : Registry σ) (scans : ScanTable) (verdicts : VerdictTable) (t : TypeId) :
    Except CheckError ScannedClass × ScanTable × VerdictTable :=
  match Entries.get? scans t with
  | some result => (result, scans, verdicts)
  | none =>
    let (result, verdicts) := ScannedClass.scan r verdicts t
    (result, Entries.put scans t result, verdicts)

/-- Whether a class has been scanned, or found to be no class. -/
def isScanned (scans : ScanTable) (t : TypeId) : Bool := Entries.contains scans t

end ScanTable

end AnnotationGuards
