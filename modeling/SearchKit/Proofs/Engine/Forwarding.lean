import SearchKit.Proofs.Call.Conversion
import SearchKit.Proofs.Engine.Delegation

/-!
# Arguments forwarded to a provider

On its way from a component to the provider an argument passes many stages: it meets the signature
of the operation, travels as data without the null arguments, is converted to what the provider's
method declares, and meets the signature of that method.  No stage loses, renames or invents one:
the names that are sent are those of the call, each of them once, and converting replaces values
under their names.

* `Signature.mem_sent_iff` : what is sent of a call.
* `ProviderClasses.methodOf?` : the method by which a provider implements an operation.
* `SearchEngine.wellNamed` : the operations of the search engine keep their names apart.
* `SearchEngine.callOperation_passes` : **what the provider's method is called with**.
-/

namespace SearchKit

open Act

variable {s s₁ s₂ : Session} {classes : ProviderClasses}

/-! ### What is sent -/

/-- Sent are the arguments of parameters, defaults included, that are not null, and whatever the
keywords that name no parameter hold. -/
theorem Signature.mem_sent_iff {sig : Signature} {positional : List Value} {keywords : Fields}
    {a : Arguments} (h : sig.bind positional keywords = .ok a) {name : String} {v : Value} :
    (name, v) ∈ a.sent ↔ (name, v) ∈ a.named ∧ v ≠ .null ∨
      (name, v) ∈ keywords ∧ ∀ p ∈ sig.parameters, p.name ≠ name := by
  have hnull : (!v.isNull) = true ↔ v ≠ .null := by
    rw [Bool.not_eq_true', ← Bool.not_eq_true, Value.isNull_iff]
  rw [Arguments.sent, List.mem_append, List.mem_filter, mem_further_iff h]
  exact or_congr_left (and_congr_right fun _ => hnull)

/-! ### The method of a provider -/

/-- A search callback of the application in the place of a method. -/
def callbackMethod (name : String) : Method where
  signature := callbackSignature
  body := fun _ a => callCallback name a

/-- The method that a member is called as. -/
def Member.method? : Member → Option Method
  | .method m => some m
  | .callback name => some (callbackMethod name)
  | _ => none

/-- The method by which a provider implements an operation. -/
def ProviderClasses.methodOf? (classes : ProviderClasses) (P : Provider) (name : String) :
    Option Method := (classes.memberOf? P name).bind Member.method?

theorem Signature.convertNamed_untyped {sig : Signature} (h : ∀ p ∈ sig.parameters, p.type = .any)
    (args : Entries) : sig.convertNamed args = pure args := by
  have hset : ∀ {es : Entries} {name : String} {v : Value},
      Assoc.get? (.str name) es = some v → es.set (.str name) v = es := by
    intro es name v hv
    induction es with
    | nil => cases hv
    | cons e es ih =>
      rw [Assoc.get?_cons] at hv
      rw [Assoc.set_cons]
      split
      · rename_i hsame
        rw [if_pos hsame] at hv
        cases hv
        rfl
      · rename_i hother
        rw [if_neg hother] at hv
        rw [ih hv]
  have hfold : ∀ ps : List Parameter, (∀ p ∈ ps, p.type = .any) →
      Signature.convertNamed { sig with parameters := ps } args = pure args := by
    intro ps hps
    induction ps with
    | nil => rfl
    | cons p ps ih =>
      rw [convertNamed, List.foldlM_cons, hps p List.mem_cons_self]
      cases hgiven : args.field? p.name with
      | none => exact ih fun q hq => hps q (List.mem_cons_of_mem _ hq)
      | some v =>
        have hconvert : convertIn .any v = pure v := rfl
        simp only [hconvert, pure_bind, hset hgiven]
        exact ih fun q hq => hps q (List.mem_cons_of_mem _ hq)
  exact hfold sig.parameters h

theorem Member.callable_of_method? {member : Member} {m : Method} (h : member.method? = some m) :
    member.callable = true := by
  cases member <;> first | rfl | cases h

theorem Member.call_of_method? {member : Member} {m : Method} (h : member.method? = some m)
    (fuel p : Nat) (args : Entries) :
    member.call classes fuel p args = m.callConverted p args := by
  cases member with
  | method m' => cases h; rfl
  | callback name =>
    cases h
    have huntyped : ∀ q ∈ callbackSignature.parameters, q.type = .any := by
      simp [callbackSignature]
    rw [call, Method.callConverted, callbackMethod,
      Signature.convertNamed_untyped huntyped, pure_bind]
  | _ => cases h

/-! ### The operations of the search engine -/

/-- The operations of the search engine have names, take further keywords, and keep the names of
their parameters apart. -/
theorem SearchEngine.wellNamed {name : String} {operation : Method}
    (h : (name, operation) ∈ SearchEngine.operations) :
    name ≠ "" ∧ operation.signature.further = true ∧ operation.signature.WellNamed := by
  have hall : ∀ e ∈ SearchEngine.operations, e.1 ≠ "" ∧ e.2.signature.further = true ∧
      (e.2.signature.parameters.map Parameter.name).Nodup ∧
      (∀ p ∈ e.2.signature.parameters, p.name ≠ receiverName) ∧
      ∀ p ∈ e.2.signature.parameters, p.name ≠ furtherName := by
    simp only [SearchEngine.operations, List.forall_mem_cons]
    and_intros
    all_goals decide
  obtain ⟨hname, hfurther, hdistinct, hreceiver, hbundle⟩ := hall _ h
  exact ⟨hname, hfurther, hdistinct, hreceiver, hbundle⟩

theorem SearchEngine.body_of_operation {name : String} {operation : Method}
    (h : (name, operation) ∈ SearchEngine.operations) :
    operation.body = fun _ _ => throw (.misuse .notImplemented) := by
  have hall : ∀ e ∈ SearchEngine.operations,
      e.2.body = fun _ _ => throw (.misuse .notImplemented) := by
    simp [SearchEngine.operations, SearchEngine.leftToProvider]
  exact hall _ h

/-- The fault that a caller of the search engine is told: that nothing implements an operation is
told as the lack of an implementation. -/
def Fault.told (fault : Fault) : Fault :=
  if fault.isUnsupported then .misuse .notImplemented else fault

/-- What comes of an operation of the search engine whose provider has something to call for it:
what the provider carries out, its answer presented and its fault told. -/
theorem SearchEngine.outcome_callOperation_of_member {id p : Nat} {c : Component} {P : Provider}
    {name : String} {operation : Method} {member : Member} {positional : List Value}
    {keywords : Fields} {a : Arguments} (hoperation : (name, operation) ∈ SearchEngine.operations)
    (hc : s.components[id]? = some c) (hbound : c.provider = some p)
    (hp : s.providers[p]? = some P) (hmember : classes.memberOf? P name = some member)
    (hcallable : member.callable = true)
    (hkeywords : Fields.Distinct (keywords.erase contextKeyword))
    (hbind : operation.signature.bind positional (keywords.erase contextKeyword) = .ok a) :
    (callOperation classes id name operation positional keywords).outcome s =
      match (classes.carryOut p member ⟨some name, some (Entries.ofFields a.sent)⟩
        (keywords.getD contextKeyword)).outcome s with
      | (.ok answer, s') => (do return (← component id).present answer).outcome s'
      | (.error fault, s') => (.error fault.told, s') := by
  obtain ⟨hname, -, hsig⟩ := SearchEngine.wellNamed hoperation
  have hrun := @runComponent_of_bound s classes id p c P
    ⟨some name, some (Entries.ofFields a.sent)⟩ name member hc hbound hp rfl hname hmember
    hcallable (keywords.getD contextKeyword)
  rw [outcome_callOperation_of_bound hc hbound hbind,
    Signature.ofCall_spread hsig hkeywords hbind, pure_bind, outcome_presented_or hrun,
    SearchEngine.body_of_operation hoperation]
  rcases (classes.carryOut p member ⟨some name, some (Entries.ofFields a.sent)⟩
    (keywords.getD contextKeyword)).outcome s with ⟨fault | answer, s'⟩
  · -- the body of the operation ends in the lack of an implementation, whatever its arguments
    dsimp only
    rw [Fault.told]
    split <;> rfl
  · rfl

theorem outcome_callOperation_of_method {id p : Nat} {c : Component} {P : Provider} {name : String}
    {operation m : Method} {positional : List Value} {keywords received : Fields} {a : Arguments}
    (hc : s.components[id]? = some c) (hbound : c.provider = some p)
    (hp : s.providers[p]? = some P) (hname : name ≠ "") (hsig : operation.signature.WellNamed)
    (hmethod : classes.methodOf? P name = some m)
    (hparameters : (m.signature.parameters.map Parameter.name).Nodup)
    (hkeywords : Fields.Distinct (keywords.erase contextKeyword))
    (hbind : operation.signature.bind positional (keywords.erase contextKeyword) = .ok a)
    (hready : (do
      let context ← contextFor (keywords.getD contextKeyword)
      requireOwn p "__run__"
      classes.prepare p context : Act Unit).outcome s = (.ok (), s₁))
    (hreceived : (m.signature.received a.sent).outcome s₁ = (.ok received, s₂)) :
    (callOperation classes id name operation positional keywords).outcome s =
      match (m.call p [] (a.sent.replaced received)).outcome s₂ with
      | (.ok answer, s') => (do return (← component id).present answer).outcome s'
      | (.error fault, s') =>
        if fault.isUnsupported then (operation.body id a).outcome s' else (.error fault, s') := by
  obtain ⟨member, hmember, hm⟩ := Option.bind_eq_some_iff.1 hmethod
  have hsent := Signature.distinct_sent hsig hkeywords hbind
  -- the stages in front of the method: they leave the session in which it is called
  have hcarried : (classes.carryOut p member ⟨some name, some (Entries.ofFields a.sent)⟩
      (keywords.getD contextKeyword)).outcome s =
      (m.call p [] (a.sent.replaced received)).outcome s₂ := by
    obtain ⟨context, s₃, hcontext, hrest⟩ := eq_ok_of_bind hready
    obtain ⟨⟨⟩, s₄, hown, hprepare⟩ := eq_ok_of_bind hrest
    rw [ProviderClasses.carryOut, outcome_bind_ok hcontext, outcome_bind_ok hown,
      outcome_bind_ok hprepare, Member.call_of_method? hm, Option.getD_some, Method.callConverted,
      Signature.convertNamed_ofFields hparameters hsent, bind_assoc, outcome_bind_ok hreceived,
      pure_bind, Signature.bindEntries, Entries.toFields?_ofFields]
    rfl
  have hrun := @runComponent_of_bound s classes id p c P
    ⟨some name, some (Entries.ofFields a.sent)⟩ name member hc hbound hp rfl hname hmember
    (Member.callable_of_method? hm) (keywords.getD contextKeyword)
  have hpresented := @outcome_presented_or s id _ _ (operation.body id a) hrun
  rw [hcarried] at hpresented
  rw [outcome_callOperation_of_bound hc hbound hbind,
    Signature.ofCall_spread hsig hkeywords hbind, pure_bind]
  exact hpresented

/-- **What the provider's method is called with.**  An operation of the search engine is called, its
arguments meet the signature, and the provider of the component implements it by a method.  If the
provider is ready for the call and the arguments can be converted, the method is called once, by
keywords alone: each argument or default of a parameter that is not null, and each further keyword,
null or not and whatever its name, is passed under its own name, converted to the type that the
method declares for that name, or unchanged where the method has no such parameter; and nothing else
is passed. -/
theorem SearchEngine.callOperation_passes {id p : Nat} {c : Component} {P : Provider}
    {name : String} {operation m : Method} {positional : List Value} {keywords received : Fields}
    {a : Arguments} (hoperation : (name, operation) ∈ SearchEngine.operations)
    (hc : s.components[id]? = some c) (hbound : c.provider = some p)
    (hp : s.providers[p]? = some P) (hmethod : classes.methodOf? P name = some m)
    (hparameters : (m.signature.parameters.map Parameter.name).Nodup)
    (hkeywords : Fields.Distinct (keywords.erase contextKeyword))
    (hbind : operation.signature.bind positional (keywords.erase contextKeyword) = .ok a)
    (hready : (do
      let context ← contextFor (keywords.getD contextKeyword)
      requireOwn p "__run__"
      classes.prepare p context : Act Unit).outcome s = (.ok (), s₁))
    (hreceived : (m.signature.received a.sent).outcome s₁ = (.ok received, s₂)) :
    a.named.map Prod.fst = operation.signature.parameters.map Parameter.name ∧
    (∀ field v, (field, v) ∈ a.sent ↔ (field, v) ∈ a.named ∧ v ≠ .null ∨
      (field, v) ∈ keywords.erase contextKeyword ∧
        ∀ q ∈ operation.signature.parameters, q.name ≠ field) ∧
    List.Forall₂ m.signature.Passes a.sent (a.sent.replaced received) ∧
    Fields.Distinct (a.sent.replaced received) ∧
    (callOperation classes id name operation positional keywords).outcome s =
      match (m.call p [] (a.sent.replaced received)).outcome s₂ with
      | (.ok answer, s') => (do return (← component id).present answer).outcome s'
      | (.error fault, s') =>
        if fault.isUnsupported then (operation.body id a).outcome s' else (.error fault, s') := by
  obtain ⟨hname, -, hsig⟩ := SearchEngine.wellNamed hoperation
  have hsent := Signature.distinct_sent hsig hkeywords hbind
  have hpassed : Fields.Distinct (a.sent.replaced received) := by
    rw [Fields.Distinct, Fields.names_replaced]
    exact hsent
  exact ⟨Signature.names_of_bind hbind, fun _ _ => Signature.mem_sent_iff hbind,
    Signature.passes_of_received hparameters hsent hreceived, hpassed,
    outcome_callOperation_of_method hc hbound hp hname hsig hmethod hparameters hkeywords hbind
      hready hreceived⟩

/-- A method that tells what it is called with.  It declares a parameter of its own. -/
def tellingMethod : Method where
  signature := {
    parameters := [{ name := "name", type := .str }, { name := "timeout", type := .int }]
    further := true }
  body := fun _ a => return Fields.toValue (a.named ++ a.further)

/-- Providers that implement the creation of an index by telling what they are called with. -/
def ProviderClasses.telling : ProviderClasses where
  member? := fun _ name => if name = "create_index" then some (.method tellingMethod) else none
  setup := fun _ _ => pure ()

/-- A search engine with a provider. -/
def Session.ofEngine : Session where
  providers := [{ kind := .plain }]
  components := [{ kind := .searchEngine, provider := some 0 }]

/-- A number for a text and a text for a number, a null keyword called like the bundle of further
keywords, and options that are left out. -/
theorem SearchEngine.callOperation_passes_further_keywords :
    ∃ operation, ("create_index", operation) ∈ SearchEngine.operations ∧
      ((callOperation .telling 0 "create_index" operation [.int 5]
        [("timeout", .str "30"), ("kwargs", .null), ("__context__", .null)]).outcome .ofEngine).1 =
      .ok (Fields.toValue [("name", .str "5"), ("timeout", .int 30), ("kwargs", .null)]) := by
  let operation := SearchEngine.leftToProvider [
    { name := "name", type := .str },
    Elasticsearch.optionalParameter "options" (.dictOf .str .any)]
  let keywords : Fields := [("timeout", .str "30"), ("kwargs", .null), ("__context__", .null)]
  let a : Arguments := {
    named := [("name", .int 5), ("options", .null)]
    further := [("timeout", .str "30"), ("kwargs", .null)] }
  have hoperation : ("create_index", operation) ∈ SearchEngine.operations :=
    List.mem_of_getElem? (i := 11) rfl
  have hc : Session.ofEngine.components[0]? = some { kind := .searchEngine, provider := some 0 } :=
    rfl
  have hp : Session.ofEngine.providers[0]? = some { kind := .plain } := rfl
  have hmethod : ProviderClasses.telling.methodOf? { kind := .plain } "create_index" =
      some tellingMethod := rfl
  have hkeywords : Fields.Distinct (keywords.erase contextKeyword) := by
    simp [keywords, Fields.Distinct, Fields.erase, contextKeyword]
  have hbind : operation.signature.bind [.int 5] (keywords.erase contextKeyword) = .ok a := rfl
  have hready : (do
      let context ← contextFor (keywords.getD contextKeyword)
      requireOwn 0 "__run__"
      ProviderClasses.telling.prepare 0 context : Act Unit).outcome .ofEngine =
        (.ok (), .ofEngine) := rfl
  have hreceived : (tellingMethod.signature.received a.sent).outcome .ofEngine =
      (.ok [("name", .str "5"), ("timeout", .int 30)], .ofEngine) := rfl
  obtain ⟨-, -, -, -, hcalled⟩ := SearchEngine.callOperation_passes hoperation hc rfl hp hmethod
    (by decide) hkeywords hbind hready hreceived
  refine ⟨operation, hoperation, ?_⟩
  rw [hcalled]
  rfl

end SearchKit
