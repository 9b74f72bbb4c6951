import AnnotationGuards.Handler.Script
import AnnotationGuards.Proofs.Chain.Stops
import AnnotationGuards.Proofs.Realm.Answers
import AnnotationGuards.Registry.Builtin

/-! # What the errors of a sensitive slot tell

    A slot with the sensitive annotation must not show its values. Two checks of it
    that stop at the same guard are compared: what differs between their errors is
    all that the errors can tell of the values.

    * `Realm.StopsAt`: a check of a slot stops at this place of its chain.
    * `Realm.check_eq_error_iff`: at a slot, every error is that of a guard of the chain.
    * `Realm.sensitive_concealed`: reports tell nothing of the value, and the text of a
      test that cannot run tells no more than the name of its type.
    * `Realm.reasons_differ`: that name may decide which of two reasons is given. -/

namespace AnnotationGuards

variable {σ : Type} {c : LinkContext σ} {t : TypeId} {m : Member} {place : Slot}
  {own : List Annotation} {v w : Value} {e : CheckError} {i : Nat}

namespace Realm

variable {realm realm' : Realm σ} {address : SlotAddress}

/-- The check of the value at the address stops at this place of the chain that is
    linked there, with this error. -/
def StopsAt (realm : Realm σ) (address : SlotAddress) (v : Value) (i : Nat) (e : CheckError) :
    Prop :=
  ∃ guards chain, realm.LinksTo address guards chain ∧ AnnotationGuards.StopsAt chain v i e

/-! ## Errors at a slot -/

/-- **Errors at a slot** are those of its guards: a check answers with an error exactly
    if it stops somewhere with this error. -/
theorem check_eq_error_iff (h : realm.Coherent c) (hslot : c.registry.HasSlot t m place own)
    (v : Value) (e : CheckError) :
    (realm.check ⟨t, c.registry.signature m, place⟩ v).outcome = .ok (.error e) ↔
      ∃ i, realm.StopsAt ⟨t, c.registry.signature m, place⟩ v i e := by
  obtain ⟨guards, hguards, -, -⟩ := LinkContext.exists_locate_eq hslot
  have hanswers := h.answersWith hslot hguards
  constructor
  · intro herror
    rw [hanswers.check_eq v] at herror
    rcases houtcome : Link.outcome c guards with abort | chain | reason
    · rw [houtcome] at herror
      cases herror
    · rw [houtcome] at herror
      have hrun : (runChain chain v).1 = .ok (.error e) := eq_ok_of_mapError_eq_ok herror
      obtain ⟨i, hi⟩ := (runChain_eq_error_iff chain v e).mp hrun
      have hne : chain ≠ [] := by
        rintro rfl
        cases hrun
      exact ⟨i, guards, chain, hanswers.linksTo chain hne houtcome, hi⟩
    · -- A disabled slot answers with no error.
      rw [houtcome] at herror
      cases herror
  · rintro ⟨i, guards', chain, hlinks, hi⟩
    rw [(check_of_linksTo h hlinks v).1, (runChain_eq_error_iff chain v e).mpr ⟨i, hi⟩]
    rfl

/-- Two realms with one registry and configuration stop at the same chains. -/
theorem exists_chain_of_stopsAt {x y : CheckError} (h : realm.Coherent c) (h' : realm'.Coherent c)
    (hx : realm.StopsAt address v i x) (hy : realm'.StopsAt address w i y) :
    ∃ guards chain, realm.LinksTo address guards chain ∧
      AnnotationGuards.StopsAt chain v i x ∧ AnnotationGuards.StopsAt chain w i y := by
  obtain ⟨guards, chain, hlinks, hstops⟩ := hx
  obtain ⟨guards', chain', hlinks', hstops'⟩ := hy
  obtain ⟨hlocate, houtcome⟩ := (linksTo_iff h).mp hlinks
  obtain ⟨hlocate', houtcome'⟩ := (linksTo_iff h').mp hlinks'
  have hguards : guards' = guards := by
    rw [hlocate] at hlocate'
    cases hlocate'
    rfl
  subst hguards
  have hchain : chain' = chain := by
    rw [houtcome] at houtcome'
    cases houtcome'
    rfl
  subst hchain
  exact ⟨guards', chain', hlinks, hstops, hstops'⟩

/-! ## Sensitive slots -/

/-- The chain of a sensitive slot shows no value. -/
theorem sensitive_of_linksTo (h : realm.Coherent c) (hslot : c.registry.HasSlot t m place own)
    (hsensitive : ∃ a ∈ own, a.type = .sensitive) {guards : SlotGuards}
    {chain : List (GuardInstance σ)}
    (hlinks : realm.LinksTo ⟨t, c.registry.signature m, place⟩ guards chain) :
    ∀ g ∈ chain, g.target.sensitive = true := by
  intro g hg
  obtain ⟨hfound, houtcome⟩ := (linksTo_iff h).mp hlinks
  obtain ⟨guards', hguards', hown, hlocate⟩ := LinkContext.exists_locate_eq hslot
  have hsame : guards' = guards := by
    rw [hfound] at hlocate
    cases hguarded : c.registry.isGuarded m with
    | true => rw [hguarded] at hlocate; exact (Option.some.inj (Except.ok.inj hlocate)).symm
    | false => rw [hguarded] at hlocate; cases hlocate
  subst hsame
  obtain ⟨n, hn⟩ := Link.exists_worksAt houtcome hg
  rw [hn.target_eq]
  apply hguards'.sensitive_iff.mpr
  rw [hown]
  exact hsensitive

/-- **What the errors of a sensitive slot tell**: for any two values and any two realms
    with the same registry and configuration, whatever they have been asked before,

    1. every error of a check is that of a guard at which the check stops;
    2. two reports from the same guard are equal, with the value concealed in both;
    3. where the same guard's test can run on neither of them, both texts have the
       description of the slot and one of two reasons, of which one names the type of
       the value. The name of the type decides which it is: values with the same type
       name have the same text. -/
theorem sensitive_concealed (h : realm.Reached) (h' : realm'.Reached)
    (hsame : realm'.context = realm.context)
    (hslot : realm.registry.HasSlot t m place own) (hsensitive : ∃ a ∈ own, a.type = .sensitive)
    (v w : Value) :
    (∀ e, (realm.check ⟨t, realm.registry.signature m, place⟩ v).outcome = .ok (.error e) ↔
      ∃ i, realm.StopsAt ⟨t, realm.registry.signature m, place⟩ v i e) ∧
    (∀ i x y,
      realm.StopsAt ⟨t, realm.registry.signature m, place⟩ v i (.violation x) →
      realm'.StopsAt ⟨t, realm.registry.signature m, place⟩ w i (.violation y) →
        x = y ∧ x.value = GuardInstance.concealed) ∧
    (∀ i x y,
      realm.StopsAt ⟨t, realm.registry.signature m, place⟩ v i (.internal x) →
      realm'.StopsAt ⟨t, realm.registry.signature m, place⟩ w i (.internal y) →
        (∃ (description : String) (p : Primitive),
          (∃ reason ∈ GuardInstance.reasons v.typeName p, x = description ++ ": " ++ reason) ∧
          (∃ reason ∈ GuardInstance.reasons w.typeName p, y = description ++ ": " ++ reason)) ∧
        (v.typeName = w.typeName → x = y)) := by
  have hcoherent := h.coherent
  have hcoherent' : realm'.Coherent realm.context := hsame ▸ h'.coherent
  refine ⟨?_, ?_, ?_⟩
  · intro e
    exact check_eq_error_iff hcoherent hslot v e
  · intro i x y hx hy
    obtain ⟨guards, chain, hlinks, hstops, hstops'⟩ :=
      exists_chain_of_stopsAt hcoherent hcoherent' hx hy
    have hshown := sensitive_of_linksTo hcoherent hslot hsensitive hlinks
    exact hstops.violation_eq hshown hstops'
  · intro i x y hx hy
    obtain ⟨guards, chain, -, hstops, hstops'⟩ :=
      exists_chain_of_stopsAt hcoherent hcoherent' hx hy
    obtain ⟨description, p, htexts⟩ := exists_texts chain i
    exact ⟨⟨description, p, htexts v x hstops, htexts w y hstops'⟩, hstops.internal_eq hstops'⟩

end Realm

/-! ## A program with one scripted guard -/

namespace Sample.Scripted

def atLeast : TypeId := ⟨34⟩
def atLeastHandler : TypeId := ⟨35⟩
def service : TypeId := ⟨36⟩

def atLeastDef : AnnotationDef where
  metas := [{ type := .guardMarker, attributes := [("handler", .type atLeastHandler)] }]

/-- A method with one parameter, an int. -/
def send (annotations : List Annotation) : Member where
  kind := .method
  name := "send"
  params := [{ name := "to", type := .ofRaw .int, annotations }]

/-- The guard has this handler, and the method these annotations on its parameter. -/
def registry (script : List Script.Declaration) (annotations : List Annotation) :
    Registry Script.State where
  types := Registry.builtinTypes ++ [
    { name := "AtLeast", package := "app", kind := .annotationType atLeastDef },
    { name := "AtLeastHandler", package := "app"
      kind := .classType
        { supertypes := [.guardHandler], handler := some (Script.handler script) } },
    { name := "Service", package := "app", kind := .classType { members := [send annotations] } }]
  names := (Registry.initial (σ := Script.State)).names ++ [
    ("app.AtLeast", atLeast), ("app.AtLeastHandler", atLeastHandler), ("app.Service", service)]

def realm (script : List Script.Declaration) (annotations : List Annotation) :
    Realm Script.State :=
  Realm.fresh ⟨0⟩ (registry script annotations) {}

def recipient : SlotAddress := ⟨service, "send(int)", .param 0⟩

theorem reached (script : List Script.Declaration) (annotations : List Annotation) :
    (realm script annotations).Reached :=
  ⟨⟨0⟩, registry script annotations, {}, [], rfl⟩

theorem hasSlot (script : List Script.Declaration) (annotations : List Annotation) :
    (registry script annotations).HasSlot service (send annotations) (.param 0) annotations where
  declared := ⟨_, rfl, List.mem_singleton_self _, by simp⟩
  annotations := rfl

/-- The guard on a parameter of which no value may be shown. -/
def sensitive : List Annotation := [{ type := .sensitive }, { type := atLeast }]

/-- The guard says no to every int. -/
def rejecting : List Script.Declaration :=
  [.constructor true .silent [] (.constant 0), .test (.named "t") .int .reject]

/-- The guard's only test is one for longs, and belongs to another handler class. -/
def stray : List Script.Declaration :=
  [.constructor true .silent [] (.constant 0), .foreignTest (.named "t") .long .accept]

/-- What applies to the parameter. -/
def guards : SlotGuards :=
  MemberGuards.paramSlot service "send(int)" 0 ⟨"to", .ofRaw .int, sensitive⟩

/-- The guard at work on the parameter, with this test. -/
def link (test : MatchedTest Script.State) : GuardInstance Script.State where
  target := guards.target
  annotation := { type := atLeast }
  path := ["@AtLeast"]
  description := "parameter 'to' (#0) of Service.send(int)"
  message := "@AtLeast"
  test := test
  handler := .own 0
  skipsNull := false
  maxValueLength := 200

def rejectingLink : GuardInstance Script.State :=
  link ⟨Script.ownKind.test (.named "t") .int (Script.TestRule.run .reject), none⟩

def strayLink : GuardInstance Script.State :=
  link ⟨Script.foreignKind.test (.named "t") .long (fun _ => Script.TestRule.run .accept 0),
    some .long⟩

theorem linksTo_rejecting : (realm rejecting sensitive).LinksTo recipient guards [rejectingLink] :=
  (Realm.linksTo_iff (reached rejecting sensitive).coherent).mpr ⟨rfl, rfl⟩

theorem linksTo_stray : (realm stray sensitive).LinksTo recipient guards [strayLink] :=
  (Realm.linksTo_iff (reached stray sensitive).coherent).mpr ⟨rfl, rfl⟩

end Sample.Scripted

namespace Realm

open Sample.Scripted

/-- The reports of two ints are the same. -/
theorem sensitive_concealed_rejecting :
    (∃ a ∈ sensitive, a.type = .sensitive) ∧
    ∃ x, (realm rejecting sensitive).StopsAt recipient (.int 5) 0 (.violation x) ∧
      (realm rejecting sensitive).StopsAt recipient (.int 7) 0 (.violation x) ∧
      x.value = "(concealed)" := by
  have hsensitive : ∃ a ∈ sensitive, a.type = .sensitive := ⟨_, List.mem_cons_self, rfl⟩
  have hfive : (realm rejecting sensitive).StopsAt recipient (.int 5) 0
      (.violation (rejectingLink.violation (.int 5))) :=
    ⟨_, _, linksTo_rejecting, rejectingLink, rfl, by simp, rfl⟩
  have hseven : (realm rejecting sensitive).StopsAt recipient (.int 7) 0
      (.violation (rejectingLink.violation (.int 7))) :=
    ⟨_, _, linksTo_rejecting, rejectingLink, rfl, by simp, rfl⟩
  obtain ⟨-, hviolations, -⟩ := sensitive_concealed (reached rejecting sensitive)
    (reached rejecting sensitive) rfl (hasSlot rejecting sensitive) hsensitive (.int 5) (.int 7)
  obtain ⟨hsame, hvalue⟩ := hviolations 0 _ _ hfive hseven
  exact ⟨hsensitive, _, hfive, hsame ▸ hseven, hvalue⟩

/-- At one guard of a sensitive slot a text is told that it does not widen, and an int that
    the handler is of another class. So the texts differ in more than the names of the
    two types. -/
theorem reasons_differ :
    (realm stray sensitive).Reached ∧
    (realm stray sensitive).registry.HasSlot service (send sensitive) (.param 0) sensitive ∧
    (∃ a ∈ sensitive, a.type = .sensitive) ∧
    ∃ x y,
      (realm stray sensitive).StopsAt recipient (.str "x") 0 (.internal x) ∧
      (realm stray sensitive).StopsAt recipient (.int 5) 0 (.internal y) ∧
      x ≠ y ∧
      ¬ ∃ before after, x = before ++ (Value.str "x").typeName ++ after ∧
        y = before ++ (Value.int 5).typeName ++ after := by
  refine ⟨reached stray sensitive, hasSlot stray sensitive, ⟨_, List.mem_cons_self, rfl⟩,
    "parameter 'to' (#0) of Service.send(int): cannot widen String value to long",
    "parameter 'to' (#0) of Service.send(int): handler instance does not match its test method",
    ⟨_, _, linksTo_stray, strayLink, rfl, by simp, rfl⟩,
    ⟨_, _, linksTo_stray, strayLink, rfl, by simp, rfl⟩, by decide, ?_⟩
  -- The first text is the shorter one, although it would name the type with the longer name.
  rintro ⟨before, after, hx, hy⟩
  have hlong := congrArg String.length hx
  have hshort := congrArg String.length hy
  have hname : (Value.str "x").typeName.length = 6 := rfl
  have hname' : (Value.int 5).typeName.length = 3 := rfl
  rw [String.length_append, String.length_append, hname] at hlong
  rw [String.length_append, String.length_append, hname'] at hshort
  have hfirst : 75 = before.length + 6 + after.length := hlong
  have hsecond : 89 = before.length + 3 + after.length := hshort
  omega

end Realm

end AnnotationGuards
