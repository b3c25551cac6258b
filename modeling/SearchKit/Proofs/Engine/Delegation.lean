import SearchKit.Engine.Routing
import SearchKit.Proofs.Schema.Checking
import SearchKit.Proofs.Session.Frame
import SearchKit.Proofs.Session.Objects

/-!
# Operations left to a provider

An operation of a component that is bound to a provider is carried out by the provider, if one of
its members can be called for it.  The fault that says that nothing implements the operation is also
the sign on which the component's own body is run.  A provider may end in that fault of itself,
after it has been called, and then the body is run on top; every other fault reaches the caller.

* `Member.call` : a member called for an operation, and `ProviderClasses.carryOut` all that a
  provider does for it.
* `outcome_callOperation_of_bound`, `runComponent_of_bound`, `runProvider_of_callable` : the way
  from the component to that member.
* `callOperation_of_callable` : **an operation that the provider implements**, whatever comes of it.
* `callOperation_runs_body_after_provider` : the body is run although the provider has a method of
  that name.
-/

namespace SearchKit

open Act

/-! ### What a provider carries out -/

namespace Member

/-- The member can be called for an operation. -/
def callable : Member → Bool
  | .connection | .inert => false
  | _ => true

/-- A member of the provider at a place called with the arguments of an operation. -/
def call (classes : ProviderClasses) (fuel p : Nat) (args : Entries) : Member → Act Value
  | .method m => m.callConverted p args
  | .run => do
    let a ← runSignature.bindEntries (← runSignature.convertNamed args)
    runProvider classes fuel p (a.get "operation") (a.get "context")
  | .setup => do
    let a ← setupSignature.bindEntries (← setupSignature.convertNamed args)
    classes.prepare p (a.get "context")
    return .null
  | .callback name => do callCallback name (← callbackSignature.bindEntries args)
  | .common name => do return ← callCommon name args
  | .connection | .inert => throw .wrongType

end Member

/-- What a provider does for an operation by one of its members: it is prepared with the context,
and the member is called. -/
def ProviderClasses.carryOut (classes : ProviderClasses) (p : Nat) (member : Member)
    (op : Operation) (context : Value) : Act Value := do
  let context ← contextFor context
  requireOwn p "__run__"
  classes.prepare p context
  member.call classes op.toValue.weight p (op.args.getD [])

variable {s s' : Session} {classes : ProviderClasses}

theorem Operation.ofValue?_toValue (op : Operation) : ofValue? op.toValue = some op := by
  obtain ⟨name, args⟩ := op
  cases name <;> cases args <;> rfl

/-- A provider carries out an operation by the member of its name. -/
theorem runProvider_of_callable {p : Nat} {P : Provider} {op : Operation} {name : String}
    {member : Member} (hp : s.providers[p]? = some P) (hop : op.name = some name)
    (hname : name ≠ "") (hmember : classes.memberOf? P name = some member)
    (hcallable : member.callable = true) (fuel : Nat) (context : Value) :
    (runProvider classes (fuel + 1) p op.toValue context).outcome s =
      (do
        classes.prepare p context
        member.call classes fuel p (op.args.getD [])).outcome s := by
  rw [runProvider, Operation.ofValue?_toValue]
  dsimp only
  rw [hop, Option.getD_some, if_neg hname, outcome_bind_ok (provider_outcome hp), hmember]
  cases member with
  | connection => cases hcallable
  | inert => cases hcallable
  | _ => rfl

/-! ### What comes before -/

/-- The operation of a name with the arguments that are sent. -/
def Operation.ofSent (name sent : Value) : Act Operation := do
  let checked ← ModelKind.operation.ofValue (Fields.toValue [("name", name), ("args", sent)])
  match ofValue? checked with
  | some op => return op
  | none => throw .wrongType

section

variable {γ : Type} {view : Session → γ} (h : ApartFromReading view)
include h

theorem keeps_contextFor (context : Value) : Keeps view (contextFor context) := by
  unfold contextFor
  split
  on_goal 1 => refine .bind (keeps_model h _ _) fun checked => ?_
  on_goal 2 => refine .bind (.pure _) fun checked => ?_
  -- checked or taken as it is, the rest is the same
  all_goals
    beta_reduce
    split
    · exact .pure _
    · exact .pure _
    · exact .throw _

theorem keeps_sentArguments (es acc : Entries) : Keeps view (Operation.sentArguments acc es) := by
  induction es generalizing acc with
  | nil => exact .pure _
  | cons e es ih =>
    obtain ⟨k, v⟩ := e
    rw [Operation.sentArguments]
    split
    · exact .bind (keeps_writtenOver h acc v) fun acc => ih acc
    · split
      · exact ih acc
      · exact ih _

omit h in
theorem keeps_ofSent (name sent : Value) : Keeps view (Operation.ofSent name sent) := by
  refine .bind (.lift _) fun checked => ?_
  split
  · exact .pure _
  · exact .throw _

theorem keeps_ofCall (name args : Value) : Keeps view (Operation.ofCall name args) := by
  unfold Operation.ofCall
  split
  · exact keeps_ofSent _ _
  · exact .bind (keeps_sentArguments h _ _) fun sent => keeps_ofSent _ (.dict sent)
  · exact fun _ => rfl
  · exact fun _ => rfl
  · exact fun _ => rfl

end

theorem name_of_ofSent {name : String} {op : Operation} (sent : Value)
    (h : (Operation.ofSent (.str name) sent).outcome s = (.ok op, s')) : op.name = some name := by
  obtain ⟨checked, s₁, hchecked, h⟩ := eq_ok_of_bind h
  obtain ⟨fields, hfields, rfl⟩ := ModelKind.ofValue_ok rfl (Prod.mk.inj hchecked).1
  obtain ⟨n, _, hname, hfields₁, rfl⟩ := (Shape.checkFields_present_iff rfl).1 hfields
  obtain ⟨a, more, -, hfields₂, rfl⟩ := (Shape.checkFields_present_iff rfl).1 hfields₁
  obtain ⟨rfl, -⟩ := Shape.check_optional_str_iff.1 hname
  obtain rfl := Shape.checkFields_nil_iff.1 hfields₂
  cases h
  rfl

theorem name_of_ofCall {name : String} {args : Value} {op : Operation}
    (h : (Operation.ofCall (.str name) args).outcome s = (.ok op, s')) : op.name = some name := by
  unfold Operation.ofCall at h
  split at h
  · exact name_of_ofSent .null h
  · obtain ⟨sent, s₁, -, h⟩ := eq_ok_of_bind h
    exact name_of_ofSent (.dict sent) h
  · cases h
  · cases h
  · cases h

/-! ### The routing -/

/-- A component that is bound has its provider carry out an operation, and presents the answer. -/
theorem runComponent_of_bound {id p : Nat} {c : Component} {P : Provider} {op : Operation}
    {name : String} {member : Member} (hc : s.components[id]? = some c)
    (hbound : c.provider = some p) (hp : s.providers[p]? = some P) (hop : op.name = some name)
    (hname : name ≠ "") (hmember : classes.memberOf? P name = some member)
    (hcallable : member.callable = true) (context : Value) :
    (runComponent classes id op.toValue context).outcome s =
      (classes.carryOut p member op context >>= fun answer => do
        return (← component id).present answer).outcome s := by
  rw [runComponent, runWithin, ProviderClasses.carryOut, bind_assoc]
  refine outcome_bind_congr fun context s₁ hcontext => ?_
  -- what is read of the session has not changed with the context
  have hc₁ : s₁.components[id]? = some c := by
    rw [(keeps_contextFor apart_components _).after hcontext, hc]
  have hp₁ : s₁.providers[p]? = some P := by
    rw [(keeps_contextFor apart_providers _).after hcontext, hp]
  have hoperation : toOperation op.toValue = pure op.toValue := rfl
  rw [hoperation, pure_bind, outcome_bind_ok (component_outcome hc₁), hbound]
  dsimp only
  rw [bind_assoc, bind_assoc]
  refine outcome_bind_congr fun _ s₂ hown => ?_
  have hproviders : s₂.providers = s₁.providers := (keeps_requireOwn p _).after hown
  have hp₂ : s₂.providers[p]? = some P := by rw [hproviders, hp₁]
  rw [outcome_bind, runProvider_of_callable hp₂ hop hname hmember hcallable, ← outcome_bind,
    bind_assoc]

/-- An operation of a bound component whose arguments meet its signature is run as data by the
component, and its own body on the fault that nothing implements it. -/
theorem outcome_callOperation_of_bound {id p : Nat} {c : Component} {name : String} {m : Method}
    {positional : List Value} {keywords : Fields} {a : Arguments}
    (hc : s.components[id]? = some c) (hbound : c.provider = some p)
    (hbind : m.signature.bind positional (keywords.erase contextKeyword) = .ok a) :
    (callOperation classes id name m positional keywords).outcome s =
      (Operation.ofCall (.str name) (.dict (m.signature.spread a)) >>= fun op =>
        tryCatch (runComponent classes id op.toValue (keywords.getD contextKeyword)) fun fault =>
          if fault.isUnsupported then m.body id a else throw fault).outcome s := by
  have hcall : m.call id positional (keywords.erase contextKeyword) = m.body id a := by
    rw [Method.call, hbind, Act.lift_ok, pure_bind]
  rw [callOperation, outcome_bind_ok (component_outcome hc), hbound]
  dsimp only
  rw [hbind, Act.lift_ok, pure_bind, hcall]

/-- What is presented if it goes well, and followed by another call on the fault that nothing
implements it: presenting can only fail if the component is gone, which is no such sign. -/
theorem outcome_presented_or {id : Nat} {act carried other : Act Value}
    (h : act.outcome s = (carried >>= fun answer => do
      return (← component id).present answer).outcome s) :
    (tryCatch act fun fault => if fault.isUnsupported then other else throw fault).outcome s =
      match carried.outcome s with
      | (.ok answer, s') => (do return (← component id).present answer).outcome s'
      | (.error fault, s') =>
        if fault.isUnsupported then other.outcome s' else (.error fault, s') := by
  rw [outcome_tryCatch, h]
  rcases hends : carried.outcome s with ⟨fault | answer, s'⟩
  · rw [outcome_bind_error hends]
    dsimp only
    split <;> rfl
  · rw [outcome_bind_ok hends]
    dsimp only
    cases hfound : s'.components[id]? with
    | some c' =>
      rw [outcome_bind_ok (component_outcome hfound)]
      rfl
    | none =>
      have hgone : (component id).outcome s' = (.error .noPart, s') := by
        rw [component, outcome_bind_ok (outcome_get s'), hfound]
        rfl
      rw [outcome_bind_error hgone]
      rfl

/-- **An operation that the provider implements.**  Its component is bound to a provider with a
member of that name that can be called, and the arguments meet the signature of the operation.  If
what the provider carries out ends in a fault, the caller sees that fault and nothing has been done
after it; except where the fault says that nothing implements the operation: then the component's
own body is run, in the session that the provider has left.  If it goes well, the answer is
presented and the body is not run. -/
theorem callOperation_of_callable {id p : Nat} {c : Component} {P : Provider} {name : String}
    {member : Member} {m : Method} {positional : List Value} {keywords : Fields} {a : Arguments}
    (hc : s.components[id]? = some c) (hbound : c.provider = some p)
    (hp : s.providers[p]? = some P) (hname : name ≠ "")
    (hmember : classes.memberOf? P name = some member) (hcallable : member.callable = true)
    (hbind : m.signature.bind positional (keywords.erase contextKeyword) = .ok a) :
    (∀ fault s₁, (Operation.ofCall (.str name) (.dict (m.signature.spread a))).outcome s =
        (.error fault, s₁) →
      (callOperation classes id name m positional keywords).outcome s = (.error fault, s₁)) ∧
    ∀ op s₁, (Operation.ofCall (.str name) (.dict (m.signature.spread a))).outcome s =
        (.ok op, s₁) →
      (∀ fault s', (classes.carryOut p member op (keywords.getD contextKeyword)).outcome s₁ =
          (.error fault, s') →
        (callOperation classes id name m positional keywords).outcome s =
          if fault.isUnsupported then (m.body id a).outcome s' else (.error fault, s')) ∧
      ∀ answer s', (classes.carryOut p member op (keywords.getD contextKeyword)).outcome s₁ =
          (.ok answer, s') →
        (callOperation classes id name m positional keywords).outcome s =
          (do return (← component id).present answer).outcome s' := by
  refine ⟨fun fault s₁ hfault => by
      rw [outcome_callOperation_of_bound hc hbound hbind, outcome_bind_error hfault],
    fun op s₁ hop => ?_⟩
  have hc₁ : s₁.components[id]? = some c := by
    rw [(keeps_ofCall apart_components _ _).after hop, hc]
  have hp₁ : s₁.providers[p]? = some P := by
    rw [(keeps_ofCall apart_providers _ _).after hop, hp]
  have hcarried := runComponent_of_bound hc₁ hbound hp₁ (name_of_ofCall hop) hname hmember hcallable
    (keywords.getD contextKeyword)
  rw [outcome_callOperation_of_bound hc hbound hbind, outcome_bind_ok hop,
    outcome_presented_or hcarried]
  exact ⟨fun fault s' hends => by rw [hends], fun answer s' hends => by rw [hends]⟩

/-! ### The sample component -/

/-- The sample component, bound to the sample provider. -/
def Session.ofSample : Session where
  providers := [{ kind := .sample }]
  components := [{ kind := .sample, provider := some 0 }]

/-- The operation of the sample component that labels a text. -/
def Sample.labelling : Method where
  signature := labelSignature
  body := fun _ a => label "component" a

/-- The method of the sample provider that labels a text. -/
def Sample.providerLabelling : Method where
  signature := labelSignature
  body := fun _ a => match a.get "text" with
    | .str "unsupported" => throw (.unsupported "label")
    | _ => label "provider" a

theorem lookup_labelling :
    ComponentKind.sample.operations.lookup "label" = some Sample.labelling ∧
      ProviderClasses.standard.memberOf? { kind := .sample } "label" =
        some (.method Sample.providerLabelling) := ⟨rfl, rfl⟩

/-- The provider cannot read tags that are no list, and the caller is told so. -/
theorem callOperation_of_unreadable_tags :
    ((callOperation .standard 0 "label" Sample.labelling [.str "new"] [("tags", .int 5)]).outcome
      .ofSample).1 = .error .wrongType := by
  have hc : Session.ofSample.components[0]? = some { kind := .sample, provider := some 0 } := rfl
  have hp : Session.ofSample.providers[0]? = some { kind := .sample } := rfl
  have hbind : Sample.labelling.signature.bind [.str "new"]
      (Fields.erase contextKeyword [("tags", .int 5)]) =
      .ok ⟨[("text", .str "new"), ("size", .null), ("tags", .int 5)], []⟩ := rfl
  have hop : (Operation.ofCall (.str "label") (.dict (Sample.labelling.signature.spread
      ⟨[("text", .str "new"), ("size", .null), ("tags", .int 5)], []⟩))).outcome .ofSample =
      (.ok ⟨some "label", some [(.str "text", .str "new"), (.str "tags", .int 5)]⟩, .ofSample) := rfl
  obtain ⟨-, hcarried⟩ := callOperation_of_callable hc rfl hp (by decide) lookup_labelling.2 rfl
    hbind
  rw [(hcarried _ _ hop).1 .wrongType _ rfl]
  rfl

/-- The provider is bound and has the method, which has no label for the text and says so in the
words of a missing implementation: the component's body is run after it and answers. -/
theorem callOperation_runs_body_after_provider :
    (Session.ofSample.components[0]?.bind fun c => c.provider) = some 0 ∧
    (Session.ofSample.providers[0]?.bind fun P =>
      ProviderClasses.standard.memberOf? P "label") = some (.method Sample.providerLabelling) ∧
    (∃ op s₁, (Operation.ofCall (.str "label") (.dict (Sample.labelling.signature.spread
        ⟨[("text", .str "unsupported"), ("size", .null), ("tags", .tuple [])], []⟩))).outcome
          .ofSample = (.ok op, s₁) ∧
      ((ProviderClasses.standard.carryOut 0 (.method Sample.providerLabelling) op .null).outcome
        s₁).1 = .error (.unsupported "label")) ∧
    ((callOperation .standard 0 "label" Sample.labelling [.str "unsupported"] []).outcome
      .ofSample).1 = .ok (Fields.toValue [
        ("by", .str "component"), ("text", .str "unsupported"), ("size", .null),
        ("tags", .list [])]) :=
  ⟨rfl, lookup_labelling.2, ⟨_, _, rfl, rfl⟩, rfl⟩

end SearchKit
