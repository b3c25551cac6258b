import SearchKit.Proofs.Call.Arguments
import SearchKit.Proofs.Engine.Delegation
import SearchKit.Proofs.Session.Writing
import SearchKit.Proofs.Write.Sending

/-!
# Operations left to the body of a component

A provider that has nothing to call for an operation says so in a fault, and on that fault the
component runs its own body.  The wording of the fault is the operation as JSON, so it is written
before the body can be run: every sequence among the arguments is read for it, and arguments without
a JSON text end the call.

* `ProviderClasses.lookFor` : the way to the provider's attribute, and what looking at it does.
* `outcome_callOperation_of_missing` : the call is the writing of the operation, and then the body.
* `callOperation_of_missing` : **an operation that the provider does not implement**, by what comes
  of the writing.
* `callOperation_fails_on_record` : the body is not run, as a record has no JSON text.
-/

namespace SearchKit

open Act

/-- What looking at a member does: a connection is built if there is none. -/
def Member.look (p : Nat) : Member → Act Unit
  | .connection => do let _ ← Elasticsearch.connection p
  | _ => pure ()

/-- A provider is asked for its attribute of a name, for a call with a context. -/
def ProviderClasses.lookFor (classes : ProviderClasses) (p : Nat) (name : String)
    (context : Value) : Act Unit := do
  let _ ← contextFor context
  requireOwn p "__run__"
  match classes.memberOf? (← provider p) name with
  | some member => member.look p
  | none => pure ()

variable {s s₁ : Session} {classes : ProviderClasses}

theorem unsupported_eq (op : Operation) :
    unsupported op = op.json >>= fun text => throw (.unsupported text) := rfl

theorem runProvider_of_missing {p : Nat} {P : Provider} {op : Operation} {name : String}
    (hp : s.providers[p]? = some P) (hop : op.name = some name) (hname : name ≠ "")
    (hmissing : ∀ member, classes.memberOf? P name = some member → member.callable = false)
    (fuel : Nat) (context : Value) :
    (runProvider classes (fuel + 1) p op.toValue context).outcome s =
      ((match classes.memberOf? P name with
        | some member => member.look p
        | none => pure ()) >>= fun _ => unsupported op).outcome s := by
  rw [runProvider, Operation.ofValue?_toValue]
  dsimp only
  rw [hop, Option.getD_some, if_neg hname, outcome_bind_ok (provider_outcome hp)]
  cases hmember : classes.memberOf? P name with
  | none => rfl
  | some member =>
    have hnot := hmissing member hmember
    cases member with
    | connection =>
      dsimp only [Member.look]
      rw [bind_assoc]
      rfl
    | inert => rfl
    | _ => cases hnot

theorem runComponent_of_missing {id p : Nat} {c : Component} {P : Provider} {op : Operation}
    {name : String} (hc : s.components[id]? = some c) (hbound : c.provider = some p)
    (hp : s.providers[p]? = some P) (hop : op.name = some name) (hname : name ≠ "")
    (hmissing : ∀ member, classes.memberOf? P name = some member → member.callable = false)
    (context : Value) :
    (runComponent classes id op.toValue context).outcome s =
      (classes.lookFor p name context >>= fun _ => unsupported op).outcome s := by
  have hoperation : toOperation op.toValue = pure op.toValue := rfl
  rw [runComponent, runWithin, ProviderClasses.lookFor, bind_assoc]
  refine outcome_bind_congr fun context s₁ hcontext => ?_
  have hc₁ : s₁.components[id]? = some c := by
    rw [(keeps_contextFor apart_components _).after hcontext, hc]
  rw [hoperation, pure_bind, outcome_bind_ok (component_outcome hc₁), hbound]
  dsimp only
  rw [bind_assoc, bind_assoc]
  refine outcome_bind_congr fun _ s₂ hown => ?_
  -- neither the context nor the look at the configuration changes what is bound
  have hproviders : s₂.providers = s.providers :=
    ((keeps_requireOwn p _).after hown).trans ((keeps_contextFor apart_providers _).after hcontext)
  have hp₂ : s₂.providers[p]? = some P := by rw [hproviders, hp]
  have hnone : ∀ next : Value → Act Value, unsupported op >>= next = unsupported op := by
    intro next
    rw [unsupported_eq, bind_assoc]
    rfl
  rw [outcome_bind, runProvider_of_missing hp₂ hop hname hmissing, ← outcome_bind, bind_assoc,
    outcome_bind_ok (provider_outcome hp₂)]
  exact outcome_bind_congr fun _ _ _ => congrArg (Act.outcome · _) (hnone _)

variable {id p : Nat} {c : Component} {P : Provider} {name : String} {m : Method}
  {positional : List Value} {keywords : Fields} {a : Arguments}

/-- What comes of a call that the provider has nothing to call for: the operation is written, and
the component's own body is run on the arguments of the call. -/
theorem outcome_callOperation_of_missing (hc : s.components[id]? = some c)
    (hbound : c.provider = some p) (hp : s.providers[p]? = some P) (hname : name ≠ "")
    (hsig : m.signature.WellNamed) (hkeywords : Fields.Distinct (keywords.erase contextKeyword))
    (hbind : m.signature.bind positional (keywords.erase contextKeyword) = .ok a)
    (hmissing : ∀ member, classes.memberOf? P name = some member → member.callable = false)
    (hlooked : (classes.lookFor p name (keywords.getD contextKeyword)).outcome s = (.ok (), s₁)) :
    (callOperation classes id name m positional keywords).outcome s =
      (Operation.json ⟨some name, some (Entries.ofFields a.sent)⟩ >>= fun _ =>
        m.call id positional (keywords.erase contextKeyword)).outcome s₁ := by
  have hcall : m.call id positional (keywords.erase contextKeyword) = m.body id a := by
    rw [Method.call, hbind, Act.lift_ok, pure_bind]
  rw [outcome_callOperation_of_bound hc hbound hbind, Signature.ofCall_spread hsig hkeywords hbind,
    pure_bind, outcome_tryCatch, runComponent_of_missing hc hbound hp rfl hname hmissing,
    outcome_bind_ok hlooked, unsupported_eq, hcall, outcome_bind, outcome_bind]
  rcases hjson : (Operation.json ⟨some name, some (Entries.ofFields a.sent)⟩).outcome s₁ with
    ⟨fault | text, s₂⟩
  -- that there is no text is another fault than that nothing implements the operation
  · obtain rfl := fault_of_jsonOf hjson
    rfl
  · rfl

/-- **An operation that the provider does not implement.**  Its component is bound to a provider
without a member of that name that can be called, the arguments meet the signature, and asking the
provider for its attribute goes well.  If the arguments are plain data, the outcome is that of the
component's own body on the arguments of the call.  In general the operation is written as JSON
first.  If that gives a text, the body is run in the session that the writing has left, and so far
nothing has been asked of the backend; if it does not, the call ends in the fault that there is no
text, and the body is not run. -/
theorem callOperation_of_missing (hc : s.components[id]? = some c)
    (hbound : c.provider = some p) (hp : s.providers[p]? = some P) (hname : name ≠ "")
    (hsig : m.signature.WellNamed) (hkeywords : Fields.Distinct (keywords.erase contextKeyword))
    (hbind : m.signature.bind positional (keywords.erase contextKeyword) = .ok a)
    (hmissing : ∀ member, classes.memberOf? P name = some member → member.callable = false)
    (hlooked : (classes.lookFor p name (keywords.getD contextKeyword)).outcome s = (.ok (), s₁)) :
    ((∀ f ∈ a.sent, f.2.plainWithin freeDepth = true) →
      (callOperation classes id name m positional keywords).outcome s =
        (m.call id positional (keywords.erase contextKeyword)).outcome s₁) ∧
    (∀ text s₂, (Operation.json ⟨some name, some (Entries.ofFields a.sent)⟩).outcome s₁ =
        (.ok text, s₂) →
      (callOperation classes id name m positional keywords).outcome s =
        (m.call id positional (keywords.erase contextKeyword)).outcome s₂ ∧
      s₂.requests = s₁.requests) ∧
    ∀ fault s₂, (Operation.json ⟨some name, some (Entries.ofFields a.sent)⟩).outcome s₁ =
        (.error fault, s₂) →
      (callOperation classes id name m positional keywords).outcome s =
        (.error (.misuse .notWritable), s₂) := by
  rw [outcome_callOperation_of_missing hc hbound hp hname hsig hkeywords hbind hmissing hlooked]
  refine ⟨fun hplain => ?_, fun text s₂ htext => ⟨?_, ?_⟩, fun fault s₂ hfault => ?_⟩
  · obtain ⟨text, htext⟩ := Operation.json_of_plain name hplain
    rw [htext, pure_bind]
  · rw [outcome_bind_ok htext]
  · exact (keeps_jsonOf apart_requests.toApartFromReading _ _).after htext
  · rw [outcome_bind_error hfault, fault_of_jsonOf hfault]

/-! ### The sample component -/

/-- The operation of the sample component that its provider does not implement. -/
def Sample.missing : Method where
  signature.parameters := [{ name := "value", fallback := some .null }]
  body := fun id a => do
    return Fields.toValue [
      ("by", .str "component"), ("value", a.get "value"),
      ("base", (← component id).settings.getD "base")]

theorem lookup_missing :
    ComponentKind.sample.operations.lookup "missing" = some Sample.missing ∧
      ProviderClasses.standard.memberOf? { kind := .sample } "missing" = none := ⟨rfl, rfl⟩

/-- On a number the component answers by itself. -/
theorem callOperation_answers_number :
    ((callOperation .standard 0 "missing" Sample.missing [.int 5] []).outcome .ofSample).1 =
      .ok (Fields.toValue [("by", .str "component"), ("value", .int 5), ("base", .null)]) := by
  have hc : Session.ofSample.components[0]? = some { kind := .sample, provider := some 0 } := rfl
  have hp : Session.ofSample.providers[0]? = some { kind := .sample } := rfl
  have hsig : Sample.missing.signature.WellNamed := ⟨by decide, by decide, by decide⟩
  have hkeywords : Fields.Distinct (Fields.erase contextKeyword []) := .nil
  have hbind : Sample.missing.signature.bind [.int 5] (Fields.erase contextKeyword []) =
      .ok ⟨[("value", .int 5)], []⟩ := rfl
  have hmissing : ∀ member, ProviderClasses.standard.memberOf? { kind := .sample } "missing" =
      some member → member.callable = false := by
    intro member hmember
    rw [lookup_missing.2] at hmember
    cases hmember
  have hlooked : (ProviderClasses.standard.lookFor 0 "missing" .null).outcome .ofSample =
      (.ok (), .ofSample) := rfl
  have hplain : ∀ f ∈ Arguments.sent ⟨[("value", .int 5)], []⟩,
      f.2.plainWithin freeDepth = true := by decide
  obtain ⟨hanswers, -, -⟩ := callOperation_of_missing hc rfl hp (by decide) hsig hkeywords hbind
    hmissing hlooked
  rw [hanswers hplain]
  rfl

/-- A session of the sample component with a record of the application. -/
def Session.ofSampleRecord : Session :=
  { Session.ofSample with
    records := [{
      key := .int 1, keyName := .str "id", document := .dict [(.str "id", .int 1)]
      collection := .str "table", metadata := .dict [], softDelete := false, trashed := false }] }

/-- The provider has nothing of that name, and the component's own body answers on the record; the
call ends in a fault all the same, as the record has no JSON text. -/
theorem callOperation_fails_on_record :
    (Session.ofSampleRecord.components[0]?.bind fun c => c.provider) = some 0 ∧
    (Session.ofSampleRecord.providers[0]?.bind fun P =>
      ProviderClasses.standard.memberOf? P "missing").isNone ∧
    ((Sample.missing.call 0 [.record 0 "r"] []).outcome .ofSampleRecord).1 =
      .ok (Fields.toValue [
        ("by", .str "component"), ("value", .record 0 "r"), ("base", .null)]) ∧
    ((callOperation .standard 0 "missing" Sample.missing [.record 0 "r"] []).outcome
      .ofSampleRecord).1 = .error (.misuse .notWritable) :=
  ⟨rfl, rfl, rfl, rfl⟩

end SearchKit
