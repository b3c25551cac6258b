import SearchKit.Proofs.Engine.Addressing

/-!
# Operations that fall back on the configured collection

An operation of a component comes to the method of its provider with the arguments that it was
called with, once the provider is ready.  So it goes to the collection that is chosen there, or it
is refused where that is missing.  The operations agree on what is missing, with one exception: the
deletion of bare identifiers tests the configured collection for null alone, and goes to the index
without a name where a component has the empty text for its collection.

* `Method.callConverted_settled` : arguments of the declared types are received as they are.
* `SearchEngine.outcome_callOperation_of_called`, `AddressedCall.outcome_callOperation` : the
  operation of a component is the method of its provider.
* `AddressedCall.askedOnce_callOperation`, `AddressedCall.refused_callOperation` : what it asks, and
  where it is refused.
* `Elasticsearch.callOperation_addresses` : **the collection that an operation goes to**.
* `Elasticsearch.delete_addresses_unnamed_index` : one operation is refused for the lack of a
  collection where another goes to the index without a name.
-/

namespace SearchKit

open Act

variable {s s' s₁ : Session} {p id : Nat} {P : Provider} {c : Component}

/-! ### Arguments of the declared types -/

/-- The parameter receives the value under its name as it is, when it is sent unless it is null. -/
structure Parameter.Settles (q : Parameter) (f : String × Value) : Prop where
  /-- The value is under the name of the parameter. -/
  name : q.name = f.1
  /-- Null is the default. -/
  fallback : f.2 = .null → q.fallback = some .null
  /-- Any other value has the declared type. -/
  typed : f.2 ≠ .null → convertIn q.type f.2 = pure f.2

section

variable {operation : Signature} {positional : List Value} {keywords : Fields} {a : Arguments}
  (hsig : operation.WellNamed) (hbind : operation.bind positional keywords = .ok a)
include hsig hbind

theorem Parameter.received_of_settles {q : Parameter} {f : String × Value} (hf : f ∈ a.named)
    (hsettles : q.Settles f) :
    q.received a.sent = pure f.2 ∧ (a.sent.get? q.name = none → q.fallback.isSome) := by
  have hsent : a.sent.get? f.1 = if f.2.isNull then none else some f.2 :=
    Signature.get?_sent hsig hbind hf
  rw [← hsettles.name] at hsent
  cases hnull : f.2.isNull with
  | true =>
    have hv := Value.isNull_iff.1 hnull
    rw [hnull, if_pos rfl] at hsent
    rw [received, hsent, hsettles.fallback hv, hv]
    exact ⟨rfl, fun _ => rfl⟩
  | false =>
    have hv : f.2 ≠ .null := fun h => by rw [h] at hnull; cases hnull
    rw [hnull, if_neg Bool.false_ne_true] at hsent
    rw [received, hsent]
    exact ⟨hsettles.typed hv, fun h => by cases h⟩

theorem Parameter.received_of_forall₂ {qs : List Parameter} {fs : Fields}
    (hall : List.Forall₂ Parameter.Settles qs fs) (hmem : ∀ f ∈ fs, f ∈ a.named) :
    (qs.mapM fun q => do return (q.name, ← q.received a.sent) : Act Fields) = pure fs ∧
      ∀ q ∈ qs, a.sent.get? q.name = none → q.fallback.isSome := by
  induction hall with
  | nil => exact ⟨rfl, by simp⟩
  | @cons q f qs fs hsettles _ ih =>
    obtain ⟨hq, hdefault⟩ := received_of_settles hsig hbind (hmem f List.mem_cons_self) hsettles
    obtain ⟨hrest, hdefaults⟩ := ih fun f hf => hmem f (List.mem_cons_of_mem _ hf)
    rw [List.mapM_cons, hq, hrest, hsettles.name]
    exact ⟨rfl, List.forall_mem_cons.2 ⟨hsettles.name ▸ hdefault, hdefaults⟩⟩

/-- Where every argument is settled, a method of the same parameters is run on the arguments. -/
theorem Method.callConverted_settled {m : Method} (himplements : m.signature.Implements operation)
    (hkeywords : keywords.Distinct)
    (hsettled : List.Forall₂ Parameter.Settles m.signature.parameters a.named) (p : Nat) :
    m.callConverted p (Entries.ofFields a.sent) =
      m.body p { named := a.named, further := m.signature.furtherKeywords a.sent } := by
  obtain ⟨hall, hdefaults⟩ := Parameter.received_of_forall₂ hsig hbind hsettled fun _ hf => hf
  rw [Method.callConverted_ofFields (himplements.names ▸ hsig.distinct) himplements.further
    (Signature.distinct_sent hsig hkeywords hbind)
    ⟨hdefaults, Signature.get?_receiver_sent hsig hbind⟩, Signature.received, hall, pure_bind]

end

namespace AddressedCall

theorem settles_optionalText (name : String) (text : Option String) :
    (Elasticsearch.optionalParameter name .str).Settles (name, optionalText text) := by
  cases text with
  | none => exact ⟨rfl, fun _ => rfl, fun h => absurd rfl h⟩
  | some text => exact ⟨rfl, nofun, fun _ => rfl⟩

theorem settles_predicates (set : PredicateSet) :
    Elasticsearch.predicatesParameter.Settles ("predicates", set.toValue) :=
  ⟨rfl, nofun, fun _ => rfl⟩

theorem method_of_name (q : AddressedCall) : ∃ m : Method,
    ProviderKind.member? .elasticsearch q.name = some (.method m) ∧
    (∀ p a, a.named = q.arguments → m.body p a = q.act p) ∧
    List.Forall₂ Parameter.Settles m.signature.parameters q.arguments := by
  have hbody : ∀ {body : Nat → Arguments → Act Value} {act : Nat → Act Value} {named : Fields},
      (∀ p further, body p ⟨named, further⟩ = act p) →
      ∀ p a, a.named = named → body p a = act p := by
    rintro body act _ h p ⟨named, further⟩ rfl
    exact h p further
  cases q with
  | search set =>
    exact ⟨_, rfl, hbody fun _ _ => rfl, .cons (settles_predicates set) .nil⟩
  | paginate set perPage page =>
    exact ⟨_, rfl, hbody fun _ _ => rfl, .cons (settles_predicates set)
      (.cons ⟨rfl, nofun, fun _ => rfl⟩ (.cons ⟨rfl, nofun, fun _ => rfl⟩ .nil))⟩
  | count set =>
    exact ⟨_, rfl, hbody fun _ _ => rfl, .cons (settles_predicates set) .nil⟩
  | distinct set field =>
    exact ⟨_, rfl, hbody fun _ _ => rfl, .cons (settles_predicates set)
      (.cons (settles_optionalText _ field) .nil)⟩
  | flush source collection =>
    exact ⟨_, rfl, hbody fun _ _ => rfl, .cons ⟨rfl, fun _ => rfl, fun _ => rfl⟩
      (.cons (settles_optionalText _ collection) .nil)⟩
  | delete ids collection =>
    exact ⟨_, rfl, hbody fun _ _ => rfl, .cons ⟨rfl, nofun, fun _ => rfl⟩
      (.cons (settles_optionalText _ collection) .nil)⟩

end AddressedCall

/-! ### On the way to the method -/

/-- What comes before the method of a provider: there is a context, and the provider is prepared
with it. -/
def readying (p : Nat) (context : Value) : Act Unit := do
  let context ← contextFor context
  requireOwn p "__run__"
  ProviderClasses.standard.prepare p context

theorem keeps_readying {γ : Type} {view : Session → γ} (h : ApartFromPreparing view) (p : Nat)
    (context : Value) : Keeps view (readying p context) := by
  refine .bind (keeps_contextFor h.toApartFromReading context) fun context =>
    .bind (keeps_requireOwn p _) fun _ => .bind (keeps_requireOwn p _) fun _ =>
    .bind (keeps_provider p) fun P => ?_
  split
  · exact .pure _
  · exact .bind (h.keeps_connection p) fun _ => .pure _
  · split
    · exact keeps_emit fun s => h.setup s _
    · exact keeps_emit fun s => h.setup s _
    · exact .throw _

theorem readying_ok {context : Value} (hp : s.providers[p]? = some P)
    (hkind : P.kind = .elasticsearch) (hown : P.AddressesByItself)
    (h : (readying p context).outcome s = (.ok (), s')) :
    ∃ P', s'.providers[p]? = some P' ∧ P'.ready = true ∧ P'.AddressesByItself ∧
      s'.naming p = s.naming p ∧
      ∀ named source, s'.chosen? P' named source = s.chosen? P named source := by
  obtain ⟨context, s₁, hcontext, h⟩ := eq_ok_of_bind h
  obtain ⟨⟨⟩, s₂, hrun, h⟩ := eq_ok_of_bind h
  have hkept : ∀ {γ : Type} {view : Session → γ}, ApartFromReading view → view s₂ = view s :=
    fun hreading => ((keeps_requireOwn p _).after hrun).trans
      ((keeps_contextFor hreading _).after hcontext)
  have hp₂ : s₂.providers[p]? = some P := by rw [hkept apart_providers, hp]
  rw [outcome_prepare_elasticsearch hp₂ hkind (hown _ (by simp))] at h
  obtain ⟨via, s₃, hconnection, h⟩ := eq_ok_of_bind h
  cases h
  obtain ⟨hnaming, P', hp', hready⟩ := connection_ok hconnection
  replace hnaming := hnaming.trans (hkept (apart_naming p))
  obtain ⟨P₁, hp₁, hsettings, howner⟩ := Session.provider_of_naming hnaming hp
  obtain rfl : P' = P₁ := Option.some.inj (hp'.symm.trans hp₁)
  exact ⟨P', hp', hready, hown.of_settings fun _ _ => by rw [hsettings], hnaming,
    Session.chosen?_congr hnaming hsettings howner⟩

/-- An operation of a component is the method of its provider, called with what is sent, after the
provider has been made ready. -/
theorem SearchEngine.outcome_callOperation_of_called {name : String} {operation m : Method}
    {positional : List Value} {keywords : Fields} {a : Arguments} {act : Act Value}
    (hoperation : (name, operation) ∈ SearchEngine.operations)
    (hc : s.components[id]? = some c) (hbound : c.provider = some p)
    (hp : s.providers[p]? = some P) (hkind : P.kind = .elasticsearch)
    (hnone : P.settings.get? name = none) (howner : name ≠ ownerName)
    (hm : ProviderKind.member? .elasticsearch name = some (.method m))
    (hkeywords : Fields.Distinct (keywords.erase contextKeyword))
    (hbind : operation.signature.bind positional (keywords.erase contextKeyword) = .ok a)
    (hcalled : m.callConverted p (Entries.ofFields a.sent) = act) :
    (callOperation .standard id name operation positional keywords).outcome s =
      match (readying p (keywords.getD contextKeyword) >>= fun _ => act).outcome s with
      | (.ok answer, s') => (do return (← component id).present answer).outcome s'
      | (.error fault, s') => (.error fault.told, s') := by
  have hmember : ProviderClasses.standard.memberOf? P name = some (.method m) := by
    rw [ProviderClasses.memberOf?, hnone]
    dsimp only
    rw [if_neg fun h => howner h.1, hkind]
    exact hm
  have hcarried : ProviderClasses.standard.carryOut p (.method m)
      ⟨some name, some (Entries.ofFields a.sent)⟩ (keywords.getD contextKeyword) =
      (readying p (keywords.getD contextKeyword) >>= fun _ => act) := by
    rw [ProviderClasses.carryOut, readying, bind_assoc]
    refine bind_congr fun context => ?_
    rw [bind_assoc]
    refine bind_congr fun _ => bind_congr fun _ => ?_
    exact hcalled
  have hends := SearchEngine.outcome_callOperation_of_member hoperation hc hbound hp hmember rfl
    hkeywords hbind
  rw [hcarried] at hends
  exact hends

namespace AddressedCall

section

variable {q : AddressedCall} {operation : Method} {positional : List Value} {keywords : Fields}
  {a : Arguments} (hoperation : (q.name, operation) ∈ SearchEngine.operations)
  (hc : s.components[id]? = some c) (hbound : c.provider = some p)
  (hp : s.providers[p]? = some P) (hkind : P.kind = .elasticsearch) (hown : P.AddressesByItself)
  (hkeywords : Fields.Distinct (keywords.erase contextKeyword))
  (hbind : operation.signature.bind positional (keywords.erase contextKeyword) = .ok a)
  (hnamed : a.named = q.arguments)
include hoperation hc hbound hp hkind hown hkeywords hbind hnamed

/-- The operation of a component is the method of its provider, after the provider has been made
ready. -/
theorem outcome_callOperation :
    (callOperation .standard id q.name operation positional keywords).outcome s =
      match (readying p (keywords.getD contextKeyword) >>= fun _ => q.act p).outcome s with
      | (.ok answer, s') => (do return (← component id).present answer).outcome s'
      | (.error fault, s') => (.error fault.told, s') := by
  obtain ⟨-, -, hsig⟩ := SearchEngine.wellNamed hoperation
  obtain ⟨m, hm, hbody, hsettled⟩ := q.method_of_name
  obtain ⟨m', hm', himplements⟩ := SearchEngine.implemented hoperation
  obtain rfl : m = m' := Member.method.inj (Option.some.inj (hm.symm.trans hm'))
  have hnone : P.settings.get? q.name = none := hown _ (by cases q <;> simp [name])
  have howner : q.name ≠ ownerName := by cases q <;> simp [name, ownerName]
  refine SearchEngine.outcome_callOperation_of_called hoperation hc hbound hp hkind hnone howner hm
    hkeywords hbind ?_
  rw [Method.callConverted_settled hsig hbind himplements hkeywords (hnamed ▸ hsettled)]
  exact hbody p ⟨a.named, m.signature.furtherKeywords a.sent⟩ hnamed

/-- The operation makes at most one request, and that goes to the collection that has been
chosen. -/
theorem askedOnce_callOperation (hbare : ∀ v ∈ q.ids, recordOf? s v = none) :
    s.AskedOnce (fun r => ∃ chosen, s.chosen? P q.named q.source = some chosen ∧
        q.Takes chosen ∧ r.SentFor chosen q.callback) q.Silent
      ((callOperation .standard id q.name operation positional keywords).outcome s) := by
  have hmethod : s.AskedOnce (fun r => ∃ chosen, s.chosen? P q.named q.source = some chosen ∧
      q.Takes chosen ∧ r.SentFor chosen q.callback) q.Silent
      ((readying p (keywords.getD contextKeyword) >>= fun _ => q.act p).outcome s) := by
    refine .bind_keeps (keeps_readying preparing_requests p _) fun _ s₁ hready => ?_
    obtain ⟨P₁, hp₁, -, hown₁, hnaming, hchosen⟩ := readying_ok hp hkind hown hready
    have hrecord := Session.recordOf?_of_naming hnaming
    rw [← hchosen]
    exact askedOnce_act hp₁ hown₁ q (hrecord ▸ hbare)
  rw [outcome_callOperation hoperation hc hbound hp hkind hown hkeywords hbind hnamed]
  rcases hends : (readying p (keywords.getD contextKeyword) >>= fun _ => q.act p).outcome s with
    ⟨fault | answer, s'⟩
  · rw [hends] at hmethod
    exact hmethod.told fault.told
  · rw [hends] at hmethod
    have hpresented : Keeps Session.requests
        (do return (← component id).present answer : Act Value) :=
      .bind (keeps_component id) fun _ => .pure _
    exact hmethod.followed (hpresented s')

/-- Where what has been chosen counts as missing, the operation ends in the refusal as soon as the
provider is ready; and where it cannot be made ready, in the fault of that. -/
theorem refused_callOperation (hbare : ∀ v ∈ q.ids, recordOf? s v = none) {chosen : Value}
    (hchosen : s.chosen? P q.named q.source = some chosen) (hrefuses : q.Refuses chosen) :
    (∀ s₁, (readying p (keywords.getD contextKeyword)).outcome s = (.ok (), s₁) →
      ∃ reason, (callOperation .standard id q.name operation positional keywords).outcome s =
        (.error (.badRequest reason), s₁)) ∧
    ∀ fault s₁, (readying p (keywords.getD contextKeyword)).outcome s = (.error fault, s₁) →
      (callOperation .standard id q.name operation positional keywords).outcome s =
        (.error fault.told, s₁) := by
  rw [outcome_callOperation hoperation hc hbound hp hkind hown hkeywords hbind hnamed]
  refine ⟨fun s₁ hready => ?_, fun fault s₁ hfault => ?_⟩
  · obtain ⟨P₁, hp₁, hopen, hown₁, hnaming, hsame⟩ := readying_ok hp hkind hown hready
    have hrecord := Session.recordOf?_of_naming hnaming
    obtain ⟨reason, hrefused⟩ := refused_act hp₁ hown₁ hopen q (hrecord ▸ hbare)
      ((hsame _ _).trans hchosen) hrefuses
    rw [outcome_bind_ok hready, hrefused]
    exact ⟨reason, rfl⟩
  · rw [outcome_bind_error hfault]

end

/-- What an operation takes is not missing, except for the deletion of identifiers where the
component's collection is the empty text. -/
theorem truthy_of_takes {q : AddressedCall} {chosen : Value}
    (hchosen : s.chosen? P q.named q.source = some chosen) (htakes : q.Takes chosen) :
    chosen.truthy = true ∨ (∃ ids named, q = .delete ids named) ∧ chosen = .str "" ∧
      s.ownersCollection P = .str "" := by
  have hempty : ∀ {v w : Value}, Elasticsearch.orElse v w = .str "" → w = .str "" := by
    intro v w h
    unfold Elasticsearch.orElse at h
    split at h
    · rename_i htruthy
      rw [h] at htruthy
      cases htruthy
    · exact h
  cases q with
  | delete ids named =>
    obtain ⟨collection, rfl⟩ := htakes
    by_cases hcollection : collection = ""
    · subst hcollection
      refine .inr ⟨⟨ids, named, rfl⟩, rfl, ?_⟩
      unfold Session.chosen? at hchosen
      split at hchosen
      · rename_i htruthy
        rw [Option.some.inj hchosen] at htruthy
        cases htruthy
      · exact hempty (hempty (Option.some.inj hchosen))
    · exact .inl (by simpa [Value.truthy] using hcollection)
  | _ => exact .inl htakes

/-- Unless the component names its collection by the empty text, all operations count the configured
collection as missing alike: where neither the provider nor the component names one. -/
theorem refuses_configured_iff (q : AddressedCall) {index collection : Option String}
    (hindex : P.settings.getD "index" = optionalText index)
    (hcollection : s.ownersCollection P = optionalText collection) (hnamed : collection ≠ some "")
    (hids : ∀ ids named, q = .delete ids named → ids ≠ []) :
    q.Refuses (s.configured P) ↔ index.getD "" = "" ∧ collection = none := by
  have htruthy : ∀ text, (optionalText text).truthy = true ↔ text.getD "" ≠ "" := by
    intro text
    cases text <;> simp [optionalText, Value.truthy]
  have hnone : collection.getD "" = "" ↔ collection = none := by
    cases collection with
    | none => simp
    | some text => simpa using hnamed
  have hconfigured : s.configured P =
      if index.getD "" ≠ "" then optionalText index else optionalText collection := by
    rw [Session.configured, hindex, hcollection, Elasticsearch.orElse]
    exact if_congr (htruthy index) rfl rfl
  have hmissing : (s.configured P).truthy = false ↔ index.getD "" = "" ∧ collection = none := by
    rw [← Bool.not_eq_true, hconfigured]
    by_cases hgiven : index.getD "" = ""
    · rw [if_neg (not_not.2 hgiven), htruthy, not_not, hnone]
      exact (and_iff_right hgiven).symm
    · rw [if_pos hgiven, htruthy, not_not]
      exact ⟨fun h => absurd h hgiven, fun h => h.1⟩
  have hnull : s.configured P = .null ↔ (s.configured P).truthy = false := by
    refine ⟨fun h => by rw [h]; rfl, fun h => ?_⟩
    obtain ⟨hgiven, rfl⟩ := hmissing.1 h
    rw [hconfigured, if_neg (not_not.2 hgiven)]
    rfl
  have hagree : q.Refuses (s.configured P) ↔ (s.configured P).truthy = false := by
    cases q with
    | delete ids named => exact ⟨fun h => hnull.1 h.2, fun h => ⟨hids ids named rfl, hnull.2 h⟩⟩
    | _ => exact Iff.rfl
  exact hagree.trans hmissing

end AddressedCall

/-! ### The collection that an operation goes to -/

/-- **The collection that an operation goes to.**  A search engine is bound to a provider for
Elasticsearch with its own methods, in whatever state.  It is asked for hits, a page of them, their
count, the distinct values of a field, the deletion of all documents or that of bare identifiers.
At most one request is made, and none only where the operation fails or need not make any.  The
request goes to the collection that has been chosen, and so does every write in it; and that is not
missing, except that identifiers are deleted from the index without a name where the component's
collection is the empty text.  Where what has been chosen counts as missing, no request is made, and
the operation is refused as soon as the provider is ready.  Unless the component's collection is the
empty text, all operations count the configured collection as missing alike: where the provider's
index is null or empty and the component has no collection. -/
theorem Elasticsearch.callOperation_addresses {q : AddressedCall} {operation : Method}
    {positional : List Value} {keywords : Fields} {a : Arguments}
    (hoperation : (q.name, operation) ∈ SearchEngine.operations)
    (hc : s.components[id]? = some c) (hbound : c.provider = some p)
    (hp : s.providers[p]? = some P) (hkind : P.kind = .elasticsearch) (hown : P.AddressesByItself)
    (hkeywords : Fields.Distinct (keywords.erase contextKeyword))
    (hbind : operation.signature.bind positional (keywords.erase contextKeyword) = .ok a)
    (hnamed : a.named = q.arguments) (hbare : ∀ v ∈ q.ids, recordOf? s v = none) :
    let ends := (callOperation .standard id q.name operation positional keywords).outcome s
    let ready := (readying p (keywords.getD contextKeyword)).outcome s
    s.AskedOnce (fun r => ∃ chosen, s.chosen? P q.named q.source = some chosen ∧
        r.SentFor chosen q.callback ∧ (chosen.truthy = true ∨
          (∃ ids named, q = .delete ids named) ∧ chosen = .str "" ∧
            s.ownersCollection P = .str "")) q.Silent ends ∧
    (∀ chosen, s.chosen? P q.named q.source = some chosen → q.Refuses chosen →
      ends.2.requests = s.requests ∧
      (∀ s₁, ready = (.ok (), s₁) → ∃ reason, ends = (.error (.badRequest reason), s₁)) ∧
      ∀ fault s₁, ready = (.error fault, s₁) → ends = (.error fault.told, s₁)) ∧
    ∀ index collection, P.settings.getD "index" = optionalText index →
      s.ownersCollection P = optionalText collection → collection ≠ some "" →
      (∀ ids named, q = .delete ids named → ids ≠ []) →
      (q.Refuses (s.configured P) ↔ index.getD "" = "" ∧ collection = none) := by
  refine ⟨?_, fun chosen hchosen hrefuses => ?_,
    fun index collection hindex hcollection hother hids =>
      q.refuses_configured_iff hindex hcollection hother hids⟩
  · have hasked := AddressedCall.askedOnce_callOperation hoperation hc hbound hp hkind hown
      hkeywords hbind hnamed hbare
    refine hasked.weaken (fun r hr => ?_) fun hsilent => hsilent
    obtain ⟨chosen, hchosen, htakes, hr⟩ := hr
    exact ⟨chosen, hchosen, hr, AddressedCall.truthy_of_takes hchosen htakes⟩
  · obtain ⟨hrefused, hfailed⟩ := AddressedCall.refused_callOperation hoperation hc hbound hp hkind
      hown hkeywords hbind hnamed hbare hchosen hrefuses
    refine ⟨?_, hrefused, hfailed⟩
    have hkept := keeps_readying preparing_requests p (keywords.getD contextKeyword)
    rcases hready : (readying p (keywords.getD contextKeyword)).outcome s with ⟨fault | ⟨⟨⟩⟩, s₁⟩
    · rw [hfailed fault s₁ hready]
      exact hkept.after hready
    · obtain ⟨reason, hends⟩ := hrefused s₁ hready
      rw [hends]
      exact hkept.after hready

/-- The deletion of records by the search engine. -/
def SearchEngine.deleting : Method :=
  leftToProvider [{ name := "records" }, Elasticsearch.optionalParameter "collection" .str]

/-- The deletion of all documents by the search engine. -/
def SearchEngine.flushing : Method :=
  leftToProvider [Elasticsearch.sourceParameter, Elasticsearch.optionalParameter "collection" .str]

/-- A search engine with a collection, or without one, whose provider has no index of its own. -/
def Session.ofCollection (collection : Option String) : Session where
  providers := [{
    kind := .elasticsearch, connection := some .host, ready := true, owner := some 0 }]
  components := [{
    kind := .searchEngine, settings := [("collection", optionalText collection)]
    provider := some 0 }]

/-- Without a collection the deletion of an identifier is refused, and nothing is asked of the
backend. -/
theorem Elasticsearch.callOperation_addresses_nothing :
    let s := Session.ofCollection none
    ∃ reason, (callOperation .standard 0 "delete" SearchEngine.deleting [.list [.int 5]] []).outcome
      s = (.error (.badRequest reason), s) := by
  let P : Provider := {
    kind := .elasticsearch, connection := some .host, ready := true, owner := some 0 }
  let q : AddressedCall := .delete [.int 5] none
  have hoperation : (q.name, SearchEngine.deleting) ∈ SearchEngine.operations :=
    List.mem_of_getElem? (i := 1) rfl
  have hp : (Session.ofCollection none).providers[0]? = some P := rfl
  have hc : (Session.ofCollection none).components[0]? = some {
      kind := .searchEngine, settings := [("collection", .null)], provider := some 0 } := rfl
  have hown : P.AddressesByItself := fun _ _ => rfl
  have hkeywords : Fields.Distinct (Fields.erase contextKeyword []) := List.Pairwise.nil
  have hbind : SearchEngine.deleting.signature.bind [.list [.int 5]]
      (Fields.erase contextKeyword []) = .ok ⟨q.arguments, []⟩ := rfl
  have hbare : ∀ v ∈ q.ids, recordOf? (Session.ofCollection none) v = none := by
    simp [q, AddressedCall.ids, recordOf?]
  obtain ⟨-, hrefused, -⟩ := Elasticsearch.callOperation_addresses hoperation hc rfl hp rfl hown
    hkeywords hbind rfl hbare
  obtain ⟨-, hready, -⟩ := hrefused .null rfl ⟨List.cons_ne_nil _ _, rfl⟩
  exact hready (Session.ofCollection none) rfl

/-- A component names its collection by the empty text.  To delete all documents is refused for the
lack of a collection, and to delete an identifier is asked of the index without a name. -/
theorem Elasticsearch.delete_addresses_unnamed_index :
    let s := Session.ofCollection (some "")
    ((callOperation .standard 0 "flush" SearchEngine.flushing [] []).outcome s).1 =
      .error (.badRequest .noCollection) ∧
    ((callOperation .standard 0 "delete" SearchEngine.deleting [.list [.int 5]] []).outcome
      s).2.requests =
      [(.host, .bulk (.str "") (.list [WriteOperation.header "delete" "" "5"]))] := ⟨rfl, rfl⟩

end SearchKit
