import AnnotationGuards.Proofs.Chain.Nesting
import AnnotationGuards.Proofs.Realm.History
import AnnotationGuards.Registry.Builtin

/-! # Links in a realm come to an end

    Wherever a realm has got to, the link of a slot finds tables that agree with
    the registry. So what holds of links from such tables holds of all its links:
    they nest without repeating a type, and never run out of depth.

    * `Sample`: a small program, on which main results are instantiated.
    * `Link.outcome_ne_endlessNesting`: no slot of a class runs out of depth.
    * `Realm.linking_ends`: links in a realm end, whatever it has been asked. -/

namespace AnnotationGuards

/-! ## A small program

    A guard, a second one that is composed of the first, and a method with a
    parameter that the second one guards. -/

namespace Sample

def present : TypeId := ⟨34⟩
def required : TypeId := ⟨35⟩
def presentHandler : TypeId := ⟨36⟩
def service : TypeId := ⟨37⟩

/-- The guard that is carried by a marker. -/
def presentDef : AnnotationDef where
  metas := [{ type := .guardMarker, attributes := [("handler", .type presentHandler)] }]

/-- The guard that is composed of the other one. -/
def requiredDef : AnnotationDef where
  metas := [{ type := present }]

def presentCode : Handler Unit where
  constructors := [
    { label := .silent, params := [], isPublic := true, isDesignated := false
      build := fun _ => .ok (.ok ()) }]
  tests := [
    { label := .silent, param := .object
      run? := fun _ => some fun v => .ok (!v.isNull) }]

def send : Member where
  kind := .method
  name := "send"
  params := [{ name := "to", type := .ofRaw .object, annotations := [{ type := required }] }]

def registry : Registry Unit where
  types := Registry.builtinTypes ++ [
    { name := "Present", package := "app", kind := .annotationType presentDef },
    { name := "Required", package := "app", kind := .annotationType requiredDef },
    { name := "PresentHandler", package := "app"
      kind := .classType { supertypes := [.guardHandler], handler := some presentCode } },
    { name := "Service", package := "app", kind := .classType { members := [send] } }]
  names := (Registry.initial (σ := Unit)).names ++ [
    ("app.Present", present), ("app.Required", required),
    ("app.PresentHandler", presentHandler), ("app.Service", service)]

/-- The small program with other members of its class. -/
def registryWith (members : List Member) : Registry Unit :=
  registry.setKind service (.classType { members })

def realm : Realm Unit := Realm.fresh ⟨0⟩ registry {}

def recipient : SlotAddress := ⟨service, "send(lang.Object)", .param 0⟩

/-- What applies to the recipient. -/
def recipientGuards : SlotGuards :=
  MemberGuards.paramSlot service "send(lang.Object)" 0
    ⟨"to", .ofRaw .object, [{ type := required }]⟩

/-- The realm once the class has been scanned. -/
def scanned : Realm Unit := (realm.locate recipient).2

theorem locate_recipient : realm.locate recipient = (.ok (some recipientGuards), scanned) := rfl

end Sample

/-! ## Links from any tables of a realm -/

variable {σ : Type} {c : LinkContext σ} {guards : SlotGuards} {address : SlotAddress}

/-- Where there is a slot, there is a class. -/
theorem LinkContext.size_pos_of_locate (h : c.locate address = .ok (some guards)) :
    0 < c.registry.size := by
  by_contra hempty
  have htypes : c.registry.types = [] := List.length_eq_zero_iff.mp (by
    have hsize : c.registry.types.length = c.registry.size := rfl
    omega)
  have hclass : c.registry.class? address.declaring = none := by
    simp [Registry.class?, Registry.get?, htypes]
  unfold LinkContext.locate Registry.locate Registry.scan at h
  rw [hclass] at h
  cases h

theorem Link.outcome_ne_endlessNesting (h : c.locate address = .ok (some guards)) :
    Link.outcome c guards ≠ .error .endlessNesting := by
  intro houtcome
  have hsize := LinkContext.size_pos_of_locate h
  exact forM_contribute_ne_endlessNesting guards.target hsize (Nat.le_succ _) guards.annotations
    (settle_eq_error houtcome).1

namespace Realm

variable {realm : Realm σ}

/-- Where the next link of the realm begins. -/
def linkStart (realm : Realm σ) : LinkProgress σ :=
  { definitions := realm.definitions, instantiators := realm.instantiators }

theorem Coherent.linkStart (h : realm.Coherent c) : realm.linkStart.Coherent c :=
  ⟨h.definitions, h.instantiators⟩

theorem slotStatus_ne_endlessNesting (h : realm.Coherent c) (address : SlotAddress) :
    (realm.slotStatus address).outcome ≠ .error .endlessNesting := by
  rw [(slotStatus_spec h address).1]
  intro hstatus
  obtain ⟨guards, hlocate, houtcome⟩ := LinkContext.exists_of_status_eq_error hstatus
  exact Link.outcome_ne_endlessNesting hlocate houtcome

theorem check_ne_endlessNesting (h : realm.Coherent c) (address : SlotAddress) (v : Value) :
    (realm.check address v).outcome ≠ .error .endlessNesting := by
  rw [(check_spec h address v).1]
  intro hchecked
  -- A test can panic, but tests do not nest.
  rcases LinkContext.exists_of_checked_eq_error hchecked with
    ⟨payload, hpanic⟩ | ⟨guards, hlocate, houtcome⟩
  · cases hpanic
  · exact Link.outcome_ne_endlessNesting hlocate houtcome

/-- **Linking ends** in every realm that calls can lead to, however its annotation
    types are composed of each other. At every slot,

    1. no report and no check runs out of depth;
    2. of the calls of `expand` that are running at any moment, no two are for the
       same annotation type, so there are at most as many as there are types;
    3. any bound on the depth that allows for that many gives the same link, so
       the bound plays no part in it. -/
theorem linking_ends (h : realm.Reached) :
    (∀ address, (realm.slotStatus address).outcome ≠ .error .endlessNesting) ∧
    (∀ address v, (realm.check address v).outcome ≠ .error .endlessNesting) ∧
    ∀ address guards realm', realm.locate address = (.ok (some guards), realm') →
      (∀ depth stack, Running realm'.context guards depth realm'.linkStart stack →
        (stack.map Expansion.type).Nodup ∧ stack.length ≤ realm.registry.size) ∧
      ∀ depth, realm.registry.size ≤ depth →
        (Link.expandWithin realm'.context guards depth).run realm'.linkStart =
          (Link.expandAll realm'.context guards).run realm'.linkStart := by
  have hcoherent := h.coherent
  refine ⟨slotStatus_ne_endlessNesting hcoherent, check_ne_endlessNesting hcoherent, ?_⟩
  intro address guards realm' hlocate
  obtain ⟨realm'', heq, hrealm'⟩ := locate_spec hcoherent address
  rw [heq] at hlocate
  obtain ⟨hfound, rfl⟩ := Prod.mk.inj hlocate
  have hsize := LinkContext.size_pos_of_locate hfound
  rw [hrealm'.context]
  refine ⟨?_, ?_⟩
  · intro depth stack hstack
    exact ⟨hstack.nodup_types hrealm'.linkStart, hstack.length_le hrealm'.linkStart hsize⟩
  · intro depth hdepth
    exact Link.expandWithin_run_eq guards hrealm'.linkStart hsize hdepth

/-- In the small program the call for the inner guard runs inside that for the
    outer one. -/
theorem linking_ends_sample :
    (Sample.realm.slotStatus Sample.recipient).outcome ≠ .error .endlessNesting ∧
    ∃ stack, Running Sample.scanned.context Sample.recipientGuards 38
        Sample.scanned.linkStart stack ∧
      stack.map Expansion.type = [Sample.present, Sample.required] ∧
      (stack.map Expansion.type).Nodup ∧ stack.length ≤ Sample.registry.size := by
  have hreached : Sample.realm.Reached := ⟨⟨0⟩, Sample.registry, {}, [], rfl⟩
  obtain ⟨hstatus, -, hslots⟩ := linking_ends hreached
  have houter : Expansion.Begins Sample.scanned.context Sample.recipientGuards 38
      Sample.scanned.linkStart
      ⟨38, [], { type := Sample.required }, Sample.scanned.linkStart⟩ :=
    ⟨rfl, rfl, [], [], rfl, rfl⟩
  have hinner : ∃ q, Expansion.Calls Sample.scanned.context Sample.recipientGuards.target
      ⟨38, [], { type := Sample.required }, Sample.scanned.linkStart⟩
      ⟨37, ["@Required"], { type := Sample.present }, q⟩ :=
    ⟨_, _, _, _, [], [], rfl, rfl, rfl, rfl, rfl, rfl⟩
  obtain ⟨q, hcalls⟩ := hinner
  have hstack := Running.nested (.outermost houter) hcalls
  obtain ⟨hnodup, hlength⟩ := (hslots _ _ _ Sample.locate_recipient).1 38 _ hstack
  exact ⟨hstatus _, _, hstack, rfl, hnodup, hlength⟩

end Realm

end AnnotationGuards
