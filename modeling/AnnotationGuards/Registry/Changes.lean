import AnnotationGuards.Registry.Builtin

/-! # Changes to a registry

A registry comes about by changes, each of which is carried out or refused. A
change is made in place, one step after the other: a step that refuses would leave
behind whatever the steps before it have done.

## Contents

- `RegistryChange`: the changes as data
- `RegistryM`: changes in place
- `Registry.change`: changes of a registry as a value
- `Registry.attempt`: what a change in place comes to, and the registry after it
- `Registry.after`, `Registry.Reached`: registries after runs of changes
-/

namespace AnnotationGuards

/-- A change to a registry. -/
inductive RegistryChange (σ : Type) where
  | declareClass (package name : String) (c : ClassDef σ)
  | declareNested (outer : TypeId) (name : String) (c : ClassDef σ)
  | declareAnnotationType (package name : String) (d : AnnotationDef)
  | addMeta (t : TypeId) (added : Annotation)
  | setMembers (t : TypeId) (members : List Member)
  | setHandler (t : TypeId) (h : Handler σ)

/-- A part of a change in place: it goes on from the registry as it stands, and may
refuse. -/
abbrev RegistryM (σ : Type) := ExceptT RegistryError (StateM (Registry σ))

namespace RegistryM

variable {σ α β : Type}

/-! ## What a part of a change comes to -/

/-- The result of a part of a change, or its refusal, and the registry that it leaves. -/
def runOn (x : RegistryM σ α) (r : Registry σ) : Except RegistryError α × Registry σ :=
  ExceptT.run x r

@[simp] theorem runOn_pure (a : α) (r : Registry σ) :
    (pure a : RegistryM σ α).runOn r = (.ok a, r) := rfl

@[simp] theorem runOn_throw (e : RegistryError) (r : Registry σ) :
    (throw e : RegistryM σ α).runOn r = (.error e, r) := rfl

@[simp] theorem runOn_get (r : Registry σ) :
    (get : RegistryM σ (Registry σ)).runOn r = (.ok r, r) := rfl

@[simp] theorem runOn_modify (f : Registry σ → Registry σ) (r : Registry σ) :
    (modify f : RegistryM σ Unit).runOn r = (.ok (), f r) := rfl

@[simp] theorem runOn_bind (x : RegistryM σ α) (f : α → RegistryM σ β) (r : Registry σ) :
    (x >>= f).runOn r =
      match x.runOn r with
      | (.ok a, r') => (f a).runOn r'
      | (.error e, r') => (.error e, r') := by
  have h : (x >>= f).runOn r = ExceptT.bindCont f (x r).1 (x r).2 := rfl
  rw [h]
  unfold runOn ExceptT.run
  rcases x r with ⟨_ | _, _⟩ <;> rfl

@[simp] theorem runOn_map (f : α → β) (x : RegistryM σ α) (r : Registry σ) :
    (f <$> x).runOn r =
      match x.runOn r with
      | (.ok a, r') => (.ok (f a), r')
      | (.error e, r') => (.error e, r') := by
  rw [← bind_pure_comp, runOn_bind]
  rfl

/-! ## Declaring types -/

/-- Adds a type under the next identity, and then its name to the index, unless the
name is taken. -/
def push (d : TypeDef σ) : RegistryM σ TypeId := do
  let r ← get
  let name := r.nameOf d
  if Entries.contains r.names name then throw (.duplicateName name)
  else
    let t := TypeId.ofNat r.types.length
    modify fun r => { r with types := r.types ++ [d] }
    modify fun r => { r with names := Entries.put r.names name t }
    pure t

/-- Adds a class inside another type, which has to be there. -/
def pushNested (outer : TypeId) (name : String) (c : ClassDef σ) : RegistryM σ TypeId := do
  let r ← get
  match r.get? outer with
  | none => throw (.typeNotFound outer)
  | some d => push { name, package := d.package, enclosing := some outer, kind := .classType c }

/-! ## Changing declared types -/

/-- The declaration of a type that has to be an annotation type. -/
def annotationAt (t : TypeId) : RegistryM σ AnnotationDef := do
  let r ← get
  match r.get? t with
  | none => throw (.typeNotFound t)
  | some d =>
    match d.kind with
    | .annotationType a => pure a
    | _ => throw (.notAnAnnotationType (r.qualifiedName t))

/-- The declaration of a type that has to be a class. -/
def classAt (t : TypeId) : RegistryM σ (ClassDef σ) := do
  let r ← get
  match r.get? t with
  | none => throw (.typeNotFound t)
  | some d =>
    match d.kind with
    | .classType c => pure c
    | _ => throw (.notAClass (r.qualifiedName t))

/-- Puts another content in the place of a type's content. -/
def putKind (t : TypeId) (kind : TypeKind σ) : RegistryM σ Unit :=
  modify fun r => r.setKind t kind

/-- Carries out a change. A declaration yields the identity of the new type. -/
def carryOut : RegistryChange σ → RegistryM σ (Option TypeId)
  | .declareClass package name c => some <$> push { name, package, kind := .classType c }
  | .declareNested outer name c => some <$> pushNested outer name c
  | .declareAnnotationType package name d =>
    some <$> push { name, package, kind := .annotationType d }
  | .addMeta t added => do
    let a ← annotationAt t
    putKind t (.annotationType { a with metas := a.metas ++ [added] })
    pure none
  | .setMembers t members => do
    let c ← classAt t
    putKind t (.classType { c with members })
    pure none
  | .setHandler t h => do
    let c ← classAt t
    -- The class has the capability before it has the code.
    putKind t (.classType c.withCapability)
    putKind t (.classType (c.withHandler h))
    pure none

end RegistryM

/-! ## Runs of changes -/

namespace Registry

variable {σ : Type}

/-- The change of a registry as a value: another registry, or a refusal. -/
def change (r : Registry σ) :
    RegistryChange σ → Except RegistryError (Option TypeId × Registry σ)
  | .declareClass package name c => (r.declareClass package name c).map (Prod.map some id)
  | .declareNested outer name c => (r.declareNested outer name c).map (Prod.map some id)
  | .declareAnnotationType package name d =>
    declareAnnotation r package name d |>.map (Prod.map some id)
  | .addMeta t added => (r.addMeta t added).map (Prod.mk none)
  | .setMembers t members => (r.setMembers t members).map (Prod.mk none)
  | .setHandler t h => (r.setHandler t h).map (Prod.mk none)

/-- What a change in place comes to, and the registry that it leaves. -/
def attempt (r : Registry σ) (change : RegistryChange σ) :
    Except RegistryError (Option TypeId) × Registry σ :=
  (RegistryM.carryOut change).runOn r

/-- The registry after a run of changes, refused ones included. -/
def after (r : Registry σ) : List (RegistryChange σ) → Registry σ
  | [] => r
  | change :: rest => (r.attempt change).2.after rest

/-- The registry has come about from the built-in types by a run of changes. -/
def Reached (r : Registry σ) : Prop := ∃ changes, r = initial.after changes

end Registry

end AnnotationGuards
