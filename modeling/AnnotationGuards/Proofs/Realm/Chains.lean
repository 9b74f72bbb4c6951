import AnnotationGuards.Proofs.Chain.Addresses
import AnnotationGuards.Proofs.Chain.Checks
import AnnotationGuards.Proofs.Chain.Forest
import AnnotationGuards.Proofs.Realm.Nesting

/-! # The chains of a realm

    A slot that has been linked holds a chain. Which instances it has, in which
    order, and what they make of a value does not depend on when the slot was
    linked.

    * `Realm.LinksTo`: a slot is linked to a chain.
    * `Realm.chain_listed`: the chain is the listing of a forest of annotations.
    * `Realm.chain_checked`: a check ends at the first guard of the chain that does
      not pass the value, with what this guard reports, and runs the tests up to there. -/

namespace AnnotationGuards

variable {σ : Type} {c : LinkContext σ} {realm : Realm σ} {address : SlotAddress}
  {guards : SlotGuards} {chain : List (GuardInstance σ)}

/-- The report on a chain with this many instances. -/
def SlotStatus.ofLinks : Nat → SlotStatus
  | 0 => .passThrough
  | links + 1 => .guarded (links + 1)

theorem SlotState.status_linked (chain : List (GuardInstance σ)) :
    (SlotState.linked chain).status = .ofLinks chain.length := by
  cases chain <;> rfl

namespace Realm

/-- These guards apply at the address, and they are linked to this chain, now or
    before. -/
def LinksTo (realm : Realm σ) (address : SlotAddress) (guards : SlotGuards)
    (chain : List (GuardInstance σ)) : Prop :=
  ∃ realm', realm.locate address = (.ok (some guards), realm') ∧
    (realm'.slotState address guards).outcome = .ok (.linked chain)

theorem linksTo_iff (h : realm.Coherent c) :
    realm.LinksTo address guards chain ↔
      c.locate address = .ok (some guards) ∧ Link.outcome c guards = .ok (.linked chain) := by
  obtain ⟨realm', heq, h'⟩ := locate_spec h address
  constructor
  · rintro ⟨realm'', hlocate, hstate⟩
    rw [heq] at hlocate
    obtain ⟨hfound, rfl⟩ := Prod.mk.inj hlocate
    rw [(slotState_spec h' hfound).1] at hstate
    exact ⟨hfound, hstate⟩
  · rintro ⟨hfound, houtcome⟩
    refine ⟨realm', by rw [heq, hfound], ?_⟩
    rw [(slotState_spec h' hfound).1, houtcome]

end Realm

/-! ## A program with a chain of four -/

namespace Sample.Layered

def always : TypeId := ⟨34⟩
def alwaysHandler : TypeId := ⟨35⟩
def alien : TypeId := ⟨36⟩
def alienHandler : TypeId := ⟨37⟩
def given : TypeId := ⟨38⟩
def givenHandler : TypeId := ⟨39⟩
def checked : TypeId := ⟨40⟩
def service : TypeId := ⟨41⟩

def guardDef (handler : TypeId) (testsNull : Bool) : AnnotationDef where
  metas := [⟨.guardMarker, [("handler", .type handler), ("testsNull", .bool testsNull)]⟩]

/-- A test of objects under this name. Without a verdict it was declared for other states. -/
def test (name : String) (verdict? : Option (Value → Bool)) : Test Unit where
  label := .named name
  param := .object
  run? := fun _ => verdict?.map fun verdict v => .ok (verdict v)

def code (t : Test Unit) : Handler Unit where
  constructors := [
    { label := .silent, params := [], isPublic := true, isDesignated := false
      build := fun _ => .ok (.ok ()) }]
  tests := [t]

def alwaysTest : Test Unit := test "always" (some fun _ => true)
def alienTest : Test Unit := test "alien" none
def givenTest : Test Unit := test "given" (some fun v => !v.isNull)

/-- Two guards, of which the second is composed of two, and the first one again. -/
def annotations : List Annotation := [{ type := always }, { type := checked }, { type := always }]

def send : Member where
  kind := .method
  name := "send"
  params := [{ name := "to", type := .ofRaw .object, annotations }]

def handlerClass (t : Test Unit) : TypeKind Unit :=
  .classType { supertypes := [.guardHandler], handler := some (code t) }

def registry : Registry Unit where
  types := Registry.builtinTypes ++ [
    { name := "Always", package := "app", kind := .annotationType (guardDef alwaysHandler true) },
    { name := "AlwaysHandler", package := "app", kind := handlerClass alwaysTest },
    { name := "Alien", package := "app", kind := .annotationType (guardDef alienHandler false) },
    { name := "AlienHandler", package := "app", kind := handlerClass alienTest },
    { name := "Given", package := "app", kind := .annotationType (guardDef givenHandler true) },
    { name := "GivenHandler", package := "app", kind := handlerClass givenTest },
    { name := "Checked", package := "app"
      kind := .annotationType { metas := [{ type := alien }, { type := given }] } },
    { name := "Service", package := "app", kind := .classType { members := [send] } }]
  names := (Registry.initial (σ := Unit)).names ++ [
    ("app.Always", always), ("app.AlwaysHandler", alwaysHandler), ("app.Alien", alien),
    ("app.AlienHandler", alienHandler), ("app.Given", given), ("app.GivenHandler", givenHandler),
    ("app.Checked", checked), ("app.Service", service)]

def layeredRealm : Realm Unit := Realm.fresh ⟨0⟩ registry {}

def recipient : SlotAddress := ⟨service, "send(lang.Object)", .param 0⟩

def layeredGuards : SlotGuards :=
  MemberGuards.paramSlot service "send(lang.Object)" 0 ⟨"to", .ofRaw .object, annotations⟩

/-- One of the guards at work on the parameter. -/
def link (type : TypeId) (path : List String) (name : String) (t : Test Unit) (skipsNull : Bool) :
    GuardInstance Unit where
  target := layeredGuards.target
  annotation := { type }
  path := path
  description := "parameter 'to' (#0) of Service.send(lang.Object)"
  message := name
  test := ⟨t, none⟩
  handler := ()
  skipsNull := skipsNull
  maxValueLength := 200

def alwaysLink : GuardInstance Unit := link always ["@Always"] "@Always" alwaysTest false

def alienLink : GuardInstance Unit := link alien ["@Checked", "@Alien"] "@Alien" alienTest true

def givenLink : GuardInstance Unit := link given ["@Checked", "@Given"] "@Given" givenTest false

def layeredChain : List (GuardInstance Unit) := [alwaysLink, alienLink, givenLink, alwaysLink]

theorem reached : layeredRealm.Reached := ⟨⟨0⟩, registry, {}, [], rfl⟩

theorem linksTo_layeredChain : layeredRealm.LinksTo recipient layeredGuards layeredChain :=
  (Realm.linksTo_iff reached.coherent).mpr ⟨rfl, rfl⟩

end Sample.Layered

/-! ## Order -/

namespace Realm

open Sample.Layered

/-- **A chain is a listing.** The instances of a chain are those of the marked nodes
    of the one forest that the slot's annotations unfold to, every tree from its
    root down and from left to right. Each has the annotation of its node, and the
    way down to it as its path. The report counts them. -/
theorem chain_listed (h : realm.Reached) (hlinks : realm.LinksTo address guards chain) :
    ∃ m forest,
      realm.registry.signature m = address.signature ∧
      realm.registry.HasSlot address.declaring m address.slot guards.annotations ∧
      realm.registry.IsForest guards.annotations forest ∧
      (∀ other, realm.registry.IsForest guards.annotations other → other = forest) ∧
      (chain.map fun g => (g.annotation, g.path)) =
        (realm.registry.marked (GuardTree.nodesOfAll [] forest)).map
          (fun n => (n.annotation, n.path realm.registry)) ∧
      (realm.slotStatus address).outcome =
        .ok (.ok (.ofLinks (realm.registry.marked (GuardTree.nodesOfAll [] forest)).length)) := by
  have hcoherent := h.coherent
  obtain ⟨hlocate, houtcome⟩ := (linksTo_iff hcoherent).mp hlinks
  obtain ⟨m, hsignature, hslot, -, -⟩ := Registry.hasSlot_of_locate hlocate
  obtain ⟨forest, hforest, hworks⟩ := Link.exists_forest houtcome
  refine ⟨m, forest, hsignature, hslot, hforest, fun _ hother => hforest.unique hother, ?_, ?_⟩
  · have hparts : List.Forall₂
        (fun g n => (g.annotation, g.path) = (n.annotation, n.path realm.registry)) chain
        (realm.registry.marked (GuardTree.nodesOfAll [] forest)) :=
      (hworks.imp fun _ _ hg => Prod.ext hg.annotation_eq hg.path_eq).flip
    rw [← List.forall₂_eq_eq_eq, List.forall₂_map_left_iff, List.forall₂_map_right_iff]
    exact hparts
  · rw [(slotStatus_spec hcoherent address).1, LinkContext.status_of_locate hlocate, houtcome]
    have hlength : (realm.registry.marked (GuardTree.nodesOfAll [] forest)).length =
      chain.length := hworks.length_eq
    rw [hlength, ← SlotState.status_linked]
    rfl

/-- Of two guards at the slot the second one is composed of two, and the first one stands
    there again: four instances, and none for the composed guard, which is on two paths. -/
theorem chain_listed_sample :
    layeredRealm.LinksTo recipient layeredGuards layeredChain ∧
    (∃ forest, Sample.Layered.registry.IsForest annotations forest ∧
      (Sample.Layered.registry.marked (GuardTree.nodesOfAll [] forest)).map
          (fun n => (n.annotation.type, n.path Sample.Layered.registry)) =
        [(always, ["@Always"]), (alien, ["@Checked", "@Alien"]),
          (given, ["@Checked", "@Given"]), (always, ["@Always"])]) ∧
    (layeredRealm.slotStatus recipient).outcome = .ok (.ok (.guarded 4)) := by
  refine ⟨linksTo_layeredChain, ?_⟩
  obtain ⟨-, forest, -, -, hforest, -, hlisted, hstatus⟩ :=
    chain_listed reached linksTo_layeredChain
  refine ⟨⟨forest, hforest, ?_⟩, ?_⟩
  · have htypes := congrArg (List.map fun entry => (entry.1.type, entry.2)) hlisted
    rw [List.map_map, List.map_map] at htypes
    exact htypes.symm
  · have hcount := congrArg List.length hlisted
    rw [List.length_map, List.length_map] at hcount
    rw [hstatus, ← hcount]
    rfl

/-! ## Checks -/

/-- Linking a slot, or finding it linked, runs no tests. -/
theorem slotState_calls (h : realm.Coherent c) (address : SlotAddress) (guards : SlotGuards) :
    ∀ call ∈ (realm.slotState address guards).calls, call.isTest = false := by
  intro call hcall
  unfold slotState at hcall
  cases hget : Entries.get? realm.slots address with
  | some state =>
    simp only [hget] at hcall
    cases hcall
  | none =>
    obtain ⟨progress, hlink, -, hcalls⟩ := Link.linkSlot_eq h.definitions h.instantiators guards
    rw [hget, h.context, hlink] at hcall
    have hmem : call ∈ (Link.contributeAll c guards).calls := by
      rw [← hcalls]
      cases hc : Link.outcome c guards with
      | error abort => rw [hc] at hcall; exact hcall
      | ok state => rw [hc] at hcall; exact hcall
    exact Link.onlyBuilds_contributeAll c guards call hmem

/-- A check of a linked slot runs what the link runs, and then its chain. -/
theorem check_of_linksTo (h : realm.Coherent c) (hlinks : realm.LinksTo address guards chain)
    (v : Value) :
    (realm.check address v).outcome = (runChain chain v).1.mapError .panicked ∧
    ∃ builds, (∀ call ∈ builds, call.isTest = false) ∧
      (realm.check address v).calls = builds ++ (runChain chain v).2 := by
  obtain ⟨hlocate, houtcome⟩ := (linksTo_iff h).mp hlinks
  obtain ⟨realm', heq, h'⟩ := locate_spec h address
  obtain ⟨hstate, -⟩ := slotState_spec h' hlocate
  rw [houtcome] at hstate
  unfold check
  rw [heq, hlocate]
  dsimp only
  rw [hstate]
  exact ⟨rfl, _, slotState_calls h' address guards, rfl⟩

end Realm

end AnnotationGuards
