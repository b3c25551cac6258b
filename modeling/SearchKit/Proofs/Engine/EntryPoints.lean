import SearchKit.Proofs.Engine.Fallback
import SearchKit.Proofs.Engine.Forwarding
import SearchKit.Proofs.Session.Settling

/-!
# Two ways into an operation

An operation of the search engine can be called as a method or given as data.  The method fills in
the defaults of the component and sends them; the data is carried out as it stands, with the
defaults of the provider.  The two agree, as every parameter of the provider's method has a default
that receives what it would be sent; where the provider has nothing to call for the operation, they
can differ in what they read before they fail.

* `Signature.Implements` : a method takes what an operation sends, with defaults of its own.
* `Signature.received_sent` : what is received of sent defaults is what is received without them.
* `SearchEngine.implemented` : the methods for Elasticsearch implement the operations.
* `SearchEngine.callOperation_eq_runComponent` : **the two ways agree**.
* `SearchEngine.callOperation_ne_runComponent_of_hidden` : a source is read on one way only.
-/

namespace SearchKit

open Act

variable {s : Session} {classes : ProviderClasses} {args : Fields} {a : Arguments}

/-! ### Defaults that are sent and defaults that are not -/

namespace Signature

variable {sig operation : Signature}

/-- A method takes what an operation sends: it has parameters of the same names, and where the
operation has a default it has one as well, the same one unless that of the operation is null. -/
structure Implements (sig operation : Signature) : Prop where
  /-- Further keywords are taken. -/
  further : sig.further = true
  /-- The parameters have the same names. -/
  names : sig.parameters.map Parameter.name = operation.parameters.map Parameter.name
  /-- A default that is sent is received as it is, and is the default of the method. -/
  defaults : ∀ p ∈ operation.parameters, ∀ q ∈ sig.parameters, q.name = p.name →
    ∀ d, p.fallback = some d → q.fallback.isSome ∧
      (d ≠ .null → q.fallback = some d ∧ convertIn q.type d = pure d)

theorem get?_sent (hsig : operation.WellNamed) {positional : List Value} {keywords : Fields}
    (h : operation.bind positional keywords = .ok a) {name : String} {v : Value}
    (hmem : (name, v) ∈ a.named) : a.sent.get? name = if v.isNull then none else some v := by
  have hnamed := distinct_named hsig h
  have hfurther : a.further.get? name = none := Fields.get?_eq_none_iff.2 fun f hf hname => by
    obtain ⟨p, hp, hpname⟩ := parameter_of_named h hmem
    exact ((mem_further_iff h).1 hf).2 p hp (hpname.trans hname.symm)
  rw [Arguments.sent, Fields.get?_append, hfurther, Option.or_none, Fields.get?_filter hnamed,
    Fields.get?_of_mem hnamed hmem]
  cases hnull : v.isNull <;> simp [hnull]

variable (himplements : sig.Implements operation) (hsig : operation.WellNamed)
  (hnull : ∀ f ∈ args, f.2 ≠ .null) (hbind : operation.bind [] args = .ok a)
include himplements hsig hnull hbind

theorem received_of_sent {q : Parameter} (hq : q ∈ sig.parameters) :
    q.received a.sent = q.received args ∧ (a.sent.get? q.name = none → q.fallback.isSome) ∧
      (args.get? q.name = none → q.fallback.isSome) := by
  obtain ⟨p, hp, hname⟩ := List.mem_map.1 (himplements.names ▸ List.mem_map_of_mem hq)
  obtain ⟨v, hmem, hgiven | ⟨hnone, hfallback⟩⟩ := given_of_bindNamed (bind_eq_ok hbind).2.2.2 hp
  · -- the argument is no null, so it is sent as it is
    have hsent := get?_sent hsig hbind hmem
    rw [if_neg (Value.isNull_iff.not.2 (hnull _ (Fields.mem_of_get? hgiven)))] at hsent
    rw [Parameter.received, Parameter.received, ← hname, hsent, hgiven]
    exact ⟨rfl, by simp, by simp⟩
  · obtain ⟨hdefault, hsame⟩ := himplements.defaults p hp q hq hname.symm v hfallback
    have hsent := get?_sent hsig hbind hmem
    rw [Parameter.received, Parameter.received, ← hname, hsent, hnone]
    refine ⟨?_, fun _ => hdefault, fun _ => hdefault⟩
    by_cases hv : v = .null
    · rw [if_pos (Value.isNull_iff.2 hv)]
    · obtain ⟨hq, hconvert⟩ := hsame hv
      rw [if_neg (Value.isNull_iff.not.2 hv), hq]
      exact hconvert

/-- The parameters receive the same of what is sent as of the keywords of the call. -/
theorem received_sent : sig.received a.sent = sig.received args := by
  have hall : ∀ qs : List Parameter, (∀ q ∈ qs, q ∈ sig.parameters) →
      (qs.mapM fun q => do return (q.name, ← q.received a.sent) : Act Fields) =
        qs.mapM fun q => do return (q.name, ← q.received args) := by
    intro qs hqs
    induction qs with
    | nil => rfl
    | cons q qs ih =>
      have hq := (received_of_sent himplements hsig hnull hbind (hqs q List.mem_cons_self)).1
      rw [List.mapM_cons, List.mapM_cons, hq, ih fun q hq => hqs q (List.mem_cons_of_mem _ hq)]
  exact hall sig.parameters fun _ hq => hq

omit himplements hsig hnull hbind in
theorem furtherKeywords_congr
    (hnames : sig.parameters.map Parameter.name = operation.parameters.map Parameter.name)
    (fields : Fields) : sig.furtherKeywords fields = operation.furtherKeywords fields := by
  refine List.filter_congr fun f _ => congrArg (!·) ?_
  have hany : ∀ ps : List Parameter,
      ps.any (fun p => p.name == f.1) = (ps.map Parameter.name).any (· == f.1) :=
    fun ps => by rw [List.any_map]; rfl
  rw [hany, hany, hnames]

omit hsig hnull in
theorem furtherKeywords_sent : sig.furtherKeywords a.sent = sig.furtherKeywords args := by
  rw [furtherKeywords_congr himplements.names, furtherKeywords_congr himplements.names]
  have hfurther := (bind_eq_ok hbind).2.1
  have hnone : ∀ f ∈ a.named.filter (fun f => !f.2.isNull),
      ¬ (!operation.parameters.any fun p => p.name == f.1) = true := by
    intro f hf
    obtain ⟨p, hp, hname⟩ := parameter_of_named hbind (List.mem_filter.1 hf).1
    simpa using ⟨p, hp, hname⟩
  rw [Arguments.sent, furtherKeywords, List.filter_append, List.filter_eq_nil_iff.2 hnone,
    List.nil_append, hfurther, furtherKeywords, List.filter_filter]
  simp

end Signature

theorem Method.callConverted_sent {m : Method} {operation : Signature}
    (himplements : m.signature.Implements operation) (hsig : operation.WellNamed)
    (hargs : args.Distinct) (hnull : ∀ f ∈ args, f.2 ≠ .null)
    (hbind : operation.bind [] args = .ok a) (p : Nat) :
    m.callConverted p (Entries.ofFields a.sent) = m.callConverted p (Entries.ofFields args) := by
  have hdistinct : (m.signature.parameters.map Parameter.name).Nodup :=
    himplements.names ▸ hsig.distinct
  have hreceived := @Signature.received_of_sent _ _ _ _ himplements hsig hnull hbind
  have hneeds : m.signature.Needs args := {
    complete := fun q hq => (hreceived hq).2.2
    receiver := (Signature.bind_eq_ok hbind).1 }
  have hneedsSent : m.signature.Needs a.sent := {
    complete := fun q hq => (hreceived hq).2.1
    receiver := Signature.get?_receiver_sent hsig hbind }
  rw [Method.callConverted_ofFields hdistinct himplements.further
      (Signature.distinct_sent hsig hargs hbind) hneedsSent,
    Method.callConverted_ofFields hdistinct himplements.further hargs hneeds,
    Signature.received_sent himplements hsig hnull hbind,
    Signature.furtherKeywords_sent himplements hbind]

/-! ### Operations as data -/

/-- The data of an operation: its name and its arguments. -/
def Operation.data (name : String) (args : Fields) : Value :=
  Fields.toValue [("name", .str name), ("args", Fields.toValue args)]

theorem toOperation_data (name : String) (args : Fields) :
    toOperation (Operation.data name args) =
      pure (Operation.toValue ⟨some name, some (Entries.ofFields args)⟩) := by
  let es := Entries.ofFields [("name", .str name), ("args", Fields.toValue args)]
  have hname : es.field? "name" = some (.str name) := rfl
  have hargs : es.field? "args" = some (Fields.toValue args) := by
    rw [Entries.field?_ofFields]
    simp [Fields.get?_cons]
  have hsettled : settleShape (ModelKind.shape .operation) (.dict es) = pure (.dict es) := by
    refine settleShape_object fun f hf v hv => ?_
    obtain rfl | rfl := List.mem_pair.1 hf
    · cases hname.symm.trans hv
      exact (settleShape_optional _ _).trans (settleShape_str _)
    · cases hargs.symm.trans hv
      exact (settleShape_optional _ _).trans (settleShape_dictOf_any _)
  have hmodel : toOperation (Operation.data name args) =
      model .operation (Operation.data name args) := rfl
  rw [hmodel]
  refine (model_of_settled hsettled).trans ?_
  exact congrArg liftM
    (Operation.ofValue_operation name fun e he => Entries.text_of_mem_ofFields he)

theorem runComponent_of_data {id p : Nat} {c : Component} {data : Value} {op : Operation}
    (hdata : toOperation data = pure op.toValue) (hc : s.components[id]? = some c)
    (hbound : c.provider = some p) (context : Value) :
    (runComponent classes id data context).outcome s =
      (runComponent classes id op.toValue context).outcome s := by
  have hoperation : toOperation op.toValue = pure op.toValue := rfl
  rw [runComponent, runComponent, runWithin, runWithin, hdata, hoperation]
  refine outcome_bind_congr fun context s₁ hcontext => ?_
  have hc₁ : s₁.components[id]? = some c := by
    rw [(keeps_contextFor apart_components _).after hcontext, hc]
  rw [pure_bind, pure_bind, outcome_bind_ok (component_outcome hc₁),
    outcome_bind_ok (component_outcome hc₁), hbound]

/-! ### Callbacks in the place of methods -/

theorem Signature.bind_of_unknown {sig : Signature} (hfurther : sig.further = false)
    {f : String × Value} (hf : f ∈ args) (hname : ∀ p ∈ sig.parameters, p.name ≠ f.1)
    (positional : List Value) : sig.bind positional args = .error .wrongType := by
  have hkept : f ∈ sig.furtherKeywords args := List.mem_filter.2 ⟨hf, by simpa using hname⟩
  have hmore : (sig.furtherKeywords args).isEmpty = false := by
    rw [List.isEmpty_eq_false_iff]
    exact List.ne_nil_of_mem hkept
  unfold bind
  dsimp only
  rw [hfurther, hmore]
  split <;> rfl

theorem Arguments.sent_eq {operation : Signature} (hsig : operation.WellNamed)
    (hbind : operation.bind [] args = .ok a)
    (habsent : ∀ p ∈ operation.parameters, args.get? p.name = none ∧ p.fallback = some .null) :
    a.sent = args := by
  have hnamed := Signature.distinct_named hsig hbind
  have hnull : ∀ f ∈ a.named, f.2 = .null := by
    intro f hf
    obtain ⟨p, hp, hname⟩ := Signature.parameter_of_named hbind hf
    obtain ⟨hnone, hfallback⟩ := habsent p hp
    obtain ⟨v, hmem, hv⟩ := Signature.given_of_bindNamed (Signature.bind_eq_ok hbind).2.2.2 hp
    have hv : v = .null := by simpa [hnone, hfallback, eq_comm] using hv
    have hget := Fields.get?_of_mem hnamed hmem
    rw [hname, Fields.get?_of_mem hnamed hf] at hget
    exact (Option.some.inj hget).trans hv
  have hfurther : a.further = args := by
    rw [(Signature.bind_eq_ok hbind).2.1]
    refine List.filter_eq_self.2 fun f hf => ?_
    have hother : ∀ p ∈ operation.parameters, p.name ≠ f.1 := fun p hp hname =>
      Fields.get?_eq_none_iff.1 (habsent p hp).1 f hf hname.symm
    simpa using hother
  have hnone : (a.named.filter fun f => !f.2.isNull) = [] :=
    List.filter_eq_nil_iff.2 fun f hf => by simp [hnull f hf, Value.isNull]
  rw [sent, hnone, hfurther, List.nil_append]

/-! ### The operations of the search engine -/

theorem SearchEngine.apart_from_callbacks {name : String} {operation : Method}
    (h : (name, operation) ∈ SearchEngine.operations) :
    (∃ p ∈ operation.signature.parameters, p.fallback = none ∧
      ∀ q ∈ callbackSignature.parameters, q.name ≠ p.name) ∨
    ∀ p ∈ operation.signature.parameters, p.fallback = some .null ∧
      ∀ q ∈ callbackSignature.parameters, q.name ≠ p.name := by
  have hall : ∀ e ∈ SearchEngine.operations,
      (∃ p ∈ e.2.signature.parameters, p.fallback = none ∧
        ∀ q ∈ callbackSignature.parameters, q.name ≠ p.name) ∨
      ∀ p ∈ e.2.signature.parameters, p.fallback = some .null ∧
        ∀ q ∈ callbackSignature.parameters, q.name ≠ p.name := by
    simp [SearchEngine.operations, SearchEngine.leftToProvider, Elasticsearch.optionalParameter,
      Elasticsearch.predicatesParameter, Elasticsearch.resultsParameter,
      Elasticsearch.sourceParameter, callbackSignature]
  exact hall _ h

/-- A callback in the place of a method is called alike with what is sent and with the keywords of
the call: it takes no argument of a parameter. -/
theorem SearchEngine.bindEntries_callback_sent {name : String} {operation : Method}
    (hoperation : (name, operation) ∈ SearchEngine.operations) (hnull : ∀ f ∈ args, f.2 ≠ .null)
    (hbind : operation.signature.bind [] args = .ok a) :
    callbackSignature.bindEntries (Entries.ofFields a.sent) =
      callbackSignature.bindEntries (Entries.ofFields args) := by
  obtain ⟨-, -, hsig⟩ := SearchEngine.wellNamed hoperation
  rw [Signature.bindEntries, Signature.bindEntries, Entries.toFields?_ofFields,
    Entries.toFields?_ofFields]
  dsimp only
  have hgiven := fun {p : Parameter} (hp : p ∈ operation.signature.parameters) =>
    Signature.given_of_bindNamed (Signature.bind_eq_ok hbind).2.2.2 hp
  by_cases hunknown : ∃ p ∈ operation.signature.parameters, args.get? p.name ≠ none ∧
      ∀ q ∈ callbackSignature.parameters, q.name ≠ p.name
  · obtain ⟨p, hp, harg, hother⟩ := hunknown
    obtain ⟨v, hmem, hv⟩ := hgiven hp
    have hv : args.get? p.name = some v := hv.resolve_right fun h => harg h.1
    have hsent := Signature.get?_sent hsig hbind hmem
    rw [if_neg (Value.isNull_iff.not.2 (hnull _ (Fields.mem_of_get? hv)))] at hsent
    rw [Signature.bind_of_unknown rfl (Fields.mem_of_get? hsent) hother,
      Signature.bind_of_unknown rfl (Fields.mem_of_get? hv) hother]
  · -- no argument of a parameter is given, and none is needed
    have habsent : ∀ p ∈ operation.signature.parameters,
        (∀ q ∈ callbackSignature.parameters, q.name ≠ p.name) → args.get? p.name = none :=
      fun p hp hother => by
        by_contra harg
        exact hunknown ⟨p, hp, harg, hother⟩
    rcases SearchEngine.apart_from_callbacks hoperation with ⟨p, hp, hneeded, hother⟩ | hall
    · obtain ⟨v, -, hv⟩ := hgiven hp
      simp [habsent p hp hother, hneeded] at hv
    · rw [Arguments.sent_eq hsig hbind fun p hp =>
        ⟨habsent p hp (hall p hp).2, (hall p hp).1⟩]

/-- The provider for Elasticsearch has a method for every operation of the search engine, which
implements it. -/
theorem SearchEngine.implemented {name : String} {operation : Method}
    (h : (name, operation) ∈ SearchEngine.operations) :
    ∃ m, ProviderKind.member? .elasticsearch name = some (.method m) ∧
      m.signature.Implements operation.signature := by
  have hall : ∀ e ∈ SearchEngine.operations, ∃ m,
      ProviderKind.member? .elasticsearch e.1 = some (.method m) ∧
        m.signature.Implements e.2.signature := by
    -- only the paging has defaults that are sent, and they are integers already
    have hsize :
        convertIn .int Elasticsearch.defaultPageSize = pure Elasticsearch.defaultPageSize := rfl
    have hpage : convertIn .int (.int 1) = pure (.int 1) := rfl
    simp only [SearchEngine.operations, List.forall_mem_cons, List.not_mem_nil, false_imp_iff,
      implies_true, and_true]
    and_intros
    all_goals
      refine ⟨_, rfl, rfl, rfl, ?_⟩
      simp [SearchEngine.leftToProvider, Elasticsearch.operation, Elasticsearch.optionalParameter,
        Elasticsearch.predicatesParameter, Elasticsearch.resultsParameter,
        Elasticsearch.sourceParameter, hpage]
    exact ⟨rfl, hsize⟩
  exact hall _ h

theorem SearchEngine.memberOf?_of_operation {name : String} {operation : Method} {P : Provider}
    (hoperation : (name, operation) ∈ SearchEngine.operations) (hkind : P.kind = .elasticsearch) :
    ∃ m : Method, m.signature.Implements operation.signature ∧
      ProviderClasses.standard.memberOf? P name =
        some (match P.settings.get? name with
          | some v => .ofValue v
          | none => .method m) := by
  have howner : name ≠ ownerName := by
    have hall : ∀ e ∈ SearchEngine.operations, e.1 ≠ ownerName := by
      simp [SearchEngine.operations, ownerName]
    exact hall _ hoperation
  obtain ⟨m, hm, himplements⟩ := SearchEngine.implemented hoperation
  refine ⟨m, himplements, ?_⟩
  unfold ProviderClasses.memberOf?
  cases P.settings.get? name with
  | some v => rfl
  | none =>
    dsimp only
    rw [if_neg fun h => howner h.1, hkind]
    exact hm

theorem SearchEngine.call_sent {name : String} {operation : Method} {P : Provider} {member : Member}
    (hoperation : (name, operation) ∈ SearchEngine.operations) (hkind : P.kind = .elasticsearch)
    (hmember : ProviderClasses.standard.memberOf? P name = some member) (hargs : args.Distinct)
    (hnull : ∀ f ∈ args, f.2 ≠ .null) (hbind : operation.signature.bind [] args = .ok a)
    (fuel fuel' p : Nat) :
    member.call .standard fuel p (Entries.ofFields a.sent) =
      member.call .standard fuel' p (Entries.ofFields args) := by
  obtain ⟨-, -, hsig⟩ := SearchEngine.wellNamed hoperation
  obtain ⟨m, himplements, hfound⟩ := SearchEngine.memberOf?_of_operation hoperation hkind
  obtain rfl := Option.some.inj (hmember.symm.trans hfound)
  split
  · rename_i v _
    unfold Member.ofValue
    split
    · rw [Member.call, Member.call, SearchEngine.bindEntries_callback_sent hoperation hnull hbind]
    · rfl
  · exact Method.callConverted_sent himplements hsig hargs hnull hbind p

theorem ProviderClasses.outcome_lookFor_of_inert {p : Nat} {P : Provider} {name : String} {v : Value}
    (hp : s.providers[p]? = some P) (hv : P.settings.get? name = some v)
    (hinert : (Member.ofValue v).callable = false) :
    (classes.lookFor p name .null).outcome s = (requireOwn p "__run__").outcome s := by
  have hmember : classes.memberOf? P name = some (.ofValue v) := by
    rw [ProviderClasses.memberOf?, hv]
  have hlook : (Member.ofValue v).look p = pure () := by
    cases v <;> rfl
  have hcontext : ∃ context, contextFor .null = pure context := ⟨_, rfl⟩
  obtain ⟨context, hcontext⟩ := hcontext
  rw [ProviderClasses.lookFor, hcontext, pure_bind, outcome_bind]
  rcases hown : (requireOwn p "__run__").outcome s with ⟨fault | ⟨⟨⟩⟩, s₁⟩
  · rfl
  · have hproviders : s₁.providers = s.providers := (keeps_requireOwn p _).after hown
    have hp₁ : s₁.providers[p]? = some P := by rw [hproviders, hp]
    dsimp only
    rw [outcome_bind_ok (provider_outcome hp₁), hmember]
    exact congrArg (Act.outcome · s₁) hlook

theorem fault_of_unsupported (op : Operation) {fault : Fault} {s' : Session}
    (h : (unsupported op).outcome s = (.error fault, s')) :
    (fault, s') = match op.json.outcome s with
      | (.ok text, s') => (.unsupported text, s')
      | (.error _, s') => (.misuse .notWritable, s') := by
  rw [unsupported_eq, outcome_bind] at h
  rcases hjson : op.json.outcome s with ⟨other | text, s₁⟩
  · obtain rfl := fault_of_jsonOf hjson
    rw [hjson] at h
    cases h
    rfl
  · rw [hjson] at h
    cases h
    rfl

/-- What cannot be called is refused after nothing but the reading of sequences: as what nothing
implements, unless something stands in the place of the provider's own way of running an
operation. -/
theorem ProviderClasses.refused_of_inert {p : Nat} {P : Provider} {name : String} {v : Value}
    (hp : s.providers[p]? = some P) (hv : P.settings.get? name = some v)
    (hinert : (Member.ofValue v).callable = false) (op : Operation) :
    ∃ fault s', (classes.lookFor p name .null >>= fun _ => unsupported op).outcome s =
        (.error fault, s') ∧
      (∀ (γ : Type) (view : Session → γ), ApartFromReading view → view s' = view s) ∧
      (P.settings.get? "__run__" = none → (fault, s') = match op.json.outcome s with
        | (.ok text, s') => (.unsupported text, s')
        | (.error _, s') => (.misuse .notWritable, s')) := by
  have hsame : (classes.lookFor p name .null >>= fun _ => unsupported op).outcome s =
      (requireOwn p "__run__" >>= fun _ => unsupported op).outcome s := by
    rw [outcome_bind, outcome_bind, outcome_lookFor_of_inert hp hv hinert]
  have hkeeps : ∀ (γ : Type) (view : Session → γ), ApartFromReading view →
      Keeps view (requireOwn p "__run__" >>= fun _ => unsupported op) := fun γ view h =>
    .bind (keeps_requireOwn p _) fun _ => .bind (keeps_jsonOf h _ _) fun _ => .throw _
  rcases hends : (requireOwn p "__run__" >>= fun _ => unsupported op).outcome s with
    ⟨fault | answer, s'⟩
  · refine ⟨fault, s', hsame.trans hends, fun γ view h => (hkeeps γ view h).after hends, ?_⟩
    intro hown
    rw [outcome_bind_ok (requireOwn_outcome hp hown)] at hends
    exact fault_of_unsupported op hends
  · obtain ⟨_, s₁, -, hrefused⟩ := eq_ok_of_bind hends
    obtain ⟨text, s₂, -, hrefused⟩ := eq_ok_of_bind hrefused
    cases hrefused

/-- Without a context, calling an operation is carrying out what is sent of it, except that the
fault that nothing implements the operation is told as the lack of an implementation. -/
theorem SearchEngine.outcome_callOperation_of_sent {id p : Nat} {c : Component} {name : String}
    {operation : Method} (hoperation : (name, operation) ∈ SearchEngine.operations)
    (hc : s.components[id]? = some c) (hbound : c.provider = some p) (hargs : args.Distinct)
    (hcontext : args.get? contextKeyword = none)
    (hbind : operation.signature.bind [] args = .ok a) :
    (callOperation classes id name operation [] args).outcome s =
      match (runComponent classes id
        (Operation.toValue ⟨some name, some (Entries.ofFields a.sent)⟩) .null).outcome s with
      | (.error fault, s') =>
        (.error (if fault.isUnsupported then .misuse .notImplemented else fault), s')
      | (.ok answer, s') => (.ok answer, s') := by
  obtain ⟨-, -, hsig⟩ := SearchEngine.wellNamed hoperation
  have hkept : args.erase contextKeyword = args :=
    List.filter_eq_self.2 fun f hf => by
      simpa using Fields.get?_eq_none_iff.1 hcontext f hf
  have hnocontext : args.getD contextKeyword = .null := by rw [Fields.getD, hcontext]; rfl
  rw [outcome_callOperation_of_bound hc hbound (hkept.symm ▸ hbind), hnocontext,
    SearchEngine.body_of_operation hoperation, Signature.ofCall_spread hsig hargs hbind, pure_bind,
    outcome_tryCatch]
  rcases (runComponent classes id
    (Operation.toValue ⟨some name, some (Entries.ofFields a.sent)⟩) .null).outcome s with
    ⟨fault | answer, s'⟩
  · -- the body of the operation ends in that lack, whatever its arguments
    dsimp only
    split <;> rfl
  · rfl

/-- **The two ways agree.**  A search engine is bound to a provider for Elasticsearch, in whatever
state.  Named arguments without nulls and without a context meet the signature of an operation.
Calling the operation with them as keywords, and having the component carry out the name and the
arguments as data, have the same outcome and leave the same session with the same trace; except
that the fault that nothing implements the operation is told by the call as the lack of an
implementation.  This is so unless the provider's configuration has something in the place of the
method that cannot be called.  Then both end in a fault and leave everything but the sequences among
the arguments as it was.  If nothing stands in the place of the provider's own way of running an
operation, the fault is that nothing implements it, told as the lack of an implementation by the
call; only where the operation has no JSON text the fault is this, and each way the operation is
written with the arguments in the order of that way. -/
theorem SearchEngine.callOperation_eq_runComponent {id p : Nat} {c : Component} {P : Provider}
    {name : String} {operation : Method} (hoperation : (name, operation) ∈ SearchEngine.operations)
    (hc : s.components[id]? = some c) (hbound : c.provider = some p)
    (hp : s.providers[p]? = some P) (hkind : P.kind = .elasticsearch) (hargs : args.Distinct)
    (hnull : ∀ f ∈ args, f.2 ≠ .null) (hcontext : args.get? contextKeyword = none)
    (hbind : operation.signature.bind [] args = .ok a) :
    ((∀ v, P.settings.get? name = some v → (Member.ofValue v).callable = true) →
      (callOperation .standard id name operation [] args).outcome s =
        match (runComponent .standard id (Operation.data name args) .null).outcome s with
        | (.error fault, s') =>
          (.error (if fault.isUnsupported then .misuse .notImplemented else fault), s')
        | (.ok answer, s') => (.ok answer, s')) ∧
    ∀ v, P.settings.get? name = some v → (Member.ofValue v).callable = false →
      ∃ called run sCalled sRun,
        (callOperation .standard id name operation [] args).outcome s = (.error called, sCalled) ∧
        (runComponent .standard id (Operation.data name args) .null).outcome s =
          (.error run, sRun) ∧
        (∀ (γ : Type) (view : Session → γ), ApartFromReading view →
          view sCalled = view s ∧ view sRun = view s) ∧
        (P.settings.get? "__run__" = none →
          (called, sCalled) =
            (match (Operation.json ⟨some name, some (Entries.ofFields a.sent)⟩).outcome s with
            | (.ok _, s') => (.misuse .notImplemented, s')
            | (.error _, s') => (.misuse .notWritable, s')) ∧
          (run, sRun) =
            match (Operation.json ⟨some name, some (Entries.ofFields args)⟩).outcome s with
            | (.ok text, s') => (.unsupported text, s')
            | (.error _, s') => (.misuse .notWritable, s')) := by
  obtain ⟨hname, -, -⟩ := SearchEngine.wellNamed hoperation
  let sent : Operation := ⟨some name, some (Entries.ofFields a.sent)⟩
  let given : Operation := ⟨some name, some (Entries.ofFields args)⟩
  rw [SearchEngine.outcome_callOperation_of_sent hoperation hc hbound hargs hcontext hbind,
    runComponent_of_data (toOperation_data name args) hc hbound]
  refine ⟨fun hcallable => ?_, fun v hv hinert => ?_⟩
  · -- the provider's member is called on either way, with what is sent and with the keywords
    obtain ⟨member, hmember, hcallable⟩ : ∃ member,
        ProviderClasses.standard.memberOf? P name = some member ∧ member.callable = true := by
      obtain ⟨m, -, hfound⟩ := SearchEngine.memberOf?_of_operation hoperation hkind
      refine ⟨_, hfound, ?_⟩
      split
      · rename_i v hv
        exact hcallable v hv
      · rfl
    rw [runComponent_of_bound hc hbound hp rfl hname hmember hcallable,
      runComponent_of_bound hc hbound hp rfl hname hmember hcallable, ProviderClasses.carryOut,
      ProviderClasses.carryOut, Option.getD_some, Option.getD_some,
      SearchEngine.call_sent hoperation hkind hmember hargs hnull hbind sent.toValue.weight
        given.toValue.weight]
  · -- nothing is called, and either operation is refused by its text
    have hmissing : ∀ member, ProviderClasses.standard.memberOf? P name = some member →
        member.callable = false := by
      intro member hmember
      rw [ProviderClasses.memberOf?, hv] at hmember
      cases hmember
      exact hinert
    rw [runComponent_of_missing hc hbound hp rfl hname hmissing,
      runComponent_of_missing hc hbound hp rfl hname hmissing]
    obtain ⟨called, sCalled, hcalled, hkept, htold⟩ :=
      @ProviderClasses.refused_of_inert s .standard p P name v hp hv hinert sent
    obtain ⟨run, sRun, hrun, hkeptRun, htoldRun⟩ :=
      @ProviderClasses.refused_of_inert s .standard p P name v hp hv hinert given
    refine ⟨_, _, _, _, by rw [hcalled], hrun, fun γ view h => ⟨hkept γ view h, hkeptRun γ view h⟩,
      fun hown => ⟨?_, htoldRun hown⟩⟩
    have htext : (called, sCalled) =
        match (Operation.json ⟨some name, some (Entries.ofFields a.sent)⟩).outcome s with
        | (.ok text, s') => (.unsupported text, s')
        | (.error _, s') => (.misuse .notWritable, s') := htold hown
    split at htext <;> cases htext <;> rfl

/-- A search engine whose provider has a number in its configuration in the place of the method for
updates, and a sequence of the records of a source that has not been read yet. -/
def Session.ofHidden : Session where
  records := Session.ofSampleRecord.records
  sources := [("main", {
    records := [.record 0 "r"], collection := .str "table", fields := .list [], failure := none })]
  sequences := [.deferred (.source "main") ["1"]]
  providers := [{
    kind := .elasticsearch, settings := [("update", .int 5)], connection := some .host
    ready := true }]
  components := [{ kind := .searchEngine, provider := some 0 }]

/-- Where the method is hidden, the two ways can differ in what they read.  The operation is written
up to the record in the list, which has no JSON text: the call sends the list first and reads no
source, the data has the sequence first and fetches its records. -/
theorem SearchEngine.callOperation_ne_runComponent_of_hidden :
    ∃ operation, ("update", operation) ∈ SearchEngine.operations ∧
      (Session.ofHidden.providers[0]?.map Provider.kind) = some .elasticsearch ∧
      (Session.ofHidden.components[0]?.bind fun c => c.provider) = some 0 ∧
      let args : Fields := [("further", .iterator 0), ("records", .list [.record 0 "r"])]
      args.Distinct ∧ (∀ f ∈ args, f.2 ≠ .null) ∧ args.get? contextKeyword = none ∧
      (∃ a, operation.signature.bind [] args = .ok a) ∧
      ((callOperation .standard 0 "update" operation [] args).outcome .ofHidden).1 =
        .error (.misuse .notWritable) ∧
      ((callOperation .standard 0 "update" operation [] args).outcome .ofHidden).2.trace = [] ∧
      ((runComponent .standard 0 (Operation.data "update" args) .null).outcome .ofHidden).1 =
        .error (.misuse .notWritable) ∧
      ((runComponent .standard 0 (Operation.data "update" args) .null).outcome .ofHidden).2.trace =
        [.fetch "main" true ["1"]] := by
  refine ⟨SearchEngine.leftToProvider [{ name := "records" }], List.mem_of_getElem? (i := 0) rfl,
    rfl, rfl, by simp [Fields.Distinct], by simp, rfl, ⟨_, rfl⟩, rfl, rfl, ?_, ?_⟩
  -- the fetched records are sorted, by a recursion that is not structural
  · with_unfolding_all rfl
  · with_unfolding_all rfl

/-- A search engine with a provider for Elasticsearch that holds the transport of the
application. -/
def Session.ofTransport : Session where
  providers := [{ kind := .elasticsearch, connection := some .host, ready := true }]
  components := [{ kind := .searchEngine, provider := some 0 }]

/-- The second page is asked for in either way, the size of a page being left to a default: both
make the same request. -/
theorem SearchEngine.callOperation_eq_runComponent_second_page :
    ∃ operation, ("paginate", operation) ∈ SearchEngine.operations ∧
      let args : Fields := [
        ("page", .int 2), ("predicates", .dict [(.str "index", .str "table")])]
      (callOperation .standard 0 "paginate" operation [] args).outcome .ofTransport =
        (runComponent .standard 0 (Operation.data "paginate" args) .null).outcome .ofTransport ∧
      ((callOperation .standard 0 "paginate" operation [] args).outcome .ofTransport).2.requests =
        [(.host, .search (.str "table") (Fields.toValue [
          ("_source", .bool true), ("size", .int 10), ("from", .int 10)]))] := by
  let operation := SearchEngine.leftToProvider [
    Elasticsearch.predicatesParameter,
    { name := "per_page", type := .int, fallback := some (.int 10) },
    { name := "page", type := .int, fallback := some (.int 1) }]
  let args : Fields := [("page", .int 2), ("predicates", .dict [(.str "index", .str "table")])]
  let P : Provider := { kind := .elasticsearch, connection := some .host, ready := true }
  have hoperation : ("paginate", operation) ∈ SearchEngine.operations :=
    List.mem_of_getElem? (i := 3) rfl
  have hc : Session.ofTransport.components[0]? =
      some { kind := .searchEngine, provider := some 0 } := rfl
  have hp : Session.ofTransport.providers[0]? = some P := rfl
  have hargs : args.Distinct := by simp [args, Fields.Distinct]
  have hnull : ∀ f ∈ args, f.2 ≠ .null := by simp [args]
  have hbind : operation.signature.bind [] args = .ok {
      named := [
        ("predicates", .dict [(.str "index", .str "table")]), ("per_page", .int 10),
        ("page", .int 2)]
      further := [] } := rfl
  obtain ⟨hagree, -⟩ := SearchEngine.callOperation_eq_runComponent hoperation hc rfl hp rfl hargs
    hnull rfl hbind
  have hsame := hagree fun v h => by cases h
  refine ⟨operation, hoperation, ?_, ?_⟩
  · rw [hsame]
    rfl
  · rw [hsame]
    rfl

end SearchKit
