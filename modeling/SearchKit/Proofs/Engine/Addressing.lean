import SearchKit.Proofs.Engine.Collection
import SearchKit.Proofs.Write.Deleting

/-!
# Operations that need a collection

A search, a count, and a deletion of documents make at most one request.  Each chooses a
collection first and asks nothing where none is left, so what it asks goes to the collection that
it has chosen.

* `Request.Addresses` : the index that a request goes to, with all writes in it.
* `Session.AskedOnce` : at most one request since a session, closed under further steps.
* `AddressedCall` : the operations and their arguments, `AddressedCall.act` the methods of the
  provider.
* `AddressedCall.askedOnce_act` : the one request of a method, and where it goes.
* `AddressedCall.refused_act` : where a method is refused.
-/

namespace SearchKit

open Act

variable {s s' s₁ : Session} {p : Nat} {P : Provider}

/-! ### At most one request -/

/-- The request goes to an index, and so do the writes in it, which are deletions. -/
def Request.Addresses (index : Value) : Request → Prop
  | .search i _ | .deleteByQuery i _ | .createIndex i _ | .deleteIndex i => i = index
  | .bulk i operations => i = index ∧ ∃ name parts, index = .str name ∧ operations = .list parts ∧
      ∀ part ∈ parts, ∃ id, part =
        .dict [(.str "delete", .dict [(.str "_index", .str name), (.str "_id", .str id)])]
  | .close => False

/-- The request is what an operation asks of an index.  Where a callback of the application stands
in the place of a search, it may search whatever it likes. -/
def Request.SentFor (index callback : Value) (r : Request) : Prop :=
  r.Addresses index ∨ callback ≠ .null ∧ ∃ i body, r = .search i body

/-- What ends here has made one request since a session, of a given kind.  Or it has made none, and
then it has failed, unless it may do without. -/
def Session.AskedOnce {α : Type} (s : Session) (asked : Request → Prop) (silent : Prop)
    (ends : Except Fault α × Session) : Prop :=
  (∃ via r, ends.2.requests = s.requests ++ [(via, r)] ∧ asked r) ∨
    ends.2.requests = s.requests ∧ (silent ∨ ∃ fault, ends.1 = .error fault)

namespace Session.AskedOnce

variable {α β : Type} {asked : Request → Prop} {silent : Prop}

theorem of_fault (fault : Fault) (h : s'.requests = s.requests) :
    s.AskedOnce asked silent ((.error fault, s') : Except Fault α × Session) :=
  .inr ⟨h, .inr ⟨fault, rfl⟩⟩

theorem of_silent {ends : Except Fault α × Session} (h : ends.2.requests = s.requests)
    (hsilent : silent) : s.AskedOnce asked silent ends := .inr ⟨h, .inl hsilent⟩

theorem weaken {asked' : Request → Prop} {silent' : Prop} {ends : Except Fault α × Session}
    (h : s.AskedOnce asked silent ends) (hasked : ∀ r, asked r → asked' r)
    (hsilent : silent → silent') : s.AskedOnce asked' silent' ends := by
  obtain ⟨via, r, hrequests, hr⟩ | ⟨hrequests, hends⟩ := h
  · exact .inl ⟨via, r, hrequests, hasked r hr⟩
  · exact .inr ⟨hrequests, hends.imp_left hsilent⟩

theorem after {ends : Except Fault α × Session} (hs : s₁.requests = s.requests)
    (h : s₁.AskedOnce asked silent ends) : s.AskedOnce asked silent ends := by
  rw [AskedOnce, hs] at h
  exact h

theorem bind_keeps {act : Act α} {next : α → Act β} (hact : Keeps Session.requests act)
    (hnext : ∀ a s₁, act.outcome s = (.ok a, s₁) →
      s₁.AskedOnce asked silent ((next a).outcome s₁)) :
    s.AskedOnce asked silent ((act >>= next).outcome s) := by
  rw [outcome_bind]
  rcases h : act.outcome s with ⟨fault | a, s₁⟩
  · exact .of_fault fault (hact.after h)
  · exact .after (hact.after h) (hnext a s₁ h)

theorem told {fault : Fault}
    (h : s.AskedOnce asked silent ((.error fault, s₁) : Except Fault α × _)) (fault' : Fault) :
    s.AskedOnce asked silent ((.error fault', s₁) : Except Fault β × _) := by
  obtain hasked | ⟨hrequests, -⟩ := h
  · exact .inl hasked
  · exact .of_fault fault' hrequests

theorem followed {a : α} {ends : Except Fault β × Session}
    (h : s.AskedOnce asked silent (.ok a, s₁)) (hends : ends.2.requests = s₁.requests) :
    s.AskedOnce asked silent ends := by
  obtain ⟨via, r, hrequests, hr⟩ | ⟨hrequests, hsilent | ⟨fault, hfault⟩⟩ := h
  · exact .inl ⟨via, r, hends.trans hrequests, hr⟩
  · exact .of_silent (hends.trans hrequests) hsilent
  · cases hfault

theorem then_keeps {act : Act α} {next : α → Act β}
    (hact : s.AskedOnce asked silent (act.outcome s))
    (hnext : ∀ a, Keeps Session.requests (next a)) :
    s.AskedOnce asked silent ((act >>= next).outcome s) := by
  rw [outcome_bind]
  rcases h : act.outcome s with ⟨fault | a, s₁⟩
  · rw [h] at hact
    exact hact.told fault
  · rw [h] at hact
    exact hact.followed (hnext a s₁)

end Session.AskedOnce

theorem askedOnce_send (via : Connection) {r : Request} (hr : r ≠ .close) (s : Session) :
    s.AskedOnce (· = r) False ((send via r).outcome s) := by
  have hreplied : s.AskedOnce (· = r) False ((do emit (.request via r); nextReply).outcome s) :=
    .inl ⟨via, r, (Asks.bind (.emit via r) fun _ => keeps_requests_nextReply) s, rfl⟩
  cases via with
  | unusable v => exact .of_fault .noPart rfl
  | host => exact hreplied
  | client n =>
    unfold send
    dsimp only
    split
    · cases r with
      | close => exact absurd rfl hr
      | _ => exact hreplied
    · exact .of_fault .wrongType rfl

theorem askedOnce_executeSearch (via : Connection) (index : Value) (set : PredicateSet)
    (query : CompiledQuery) (options : Entries) (s : Session) :
    s.AskedOnce (Request.SentFor index set.callback) (set.callback ≠ .null)
      ((executeSearch via index set query options).outcome s) := by
  unfold executeSearch
  dsimp only
  split
  · rename_i hcallback
    refine .bind_keeps (.lift _) fun name s₁ _ => ?_
    refine .bind_keeps (keeps_log apart_requests _ _ _) fun _ s₂ _ => ?_
    refine (askedOnce_send via (by nofun) s₂).weaken (fun r hr => ?_) nofun
    subst hr
    exact .inl rfl
  · rename_i name hcallback
    have hsome : set.callback ≠ .null := by rw [hcallback]; nofun
    unfold runCallback
    refine .bind_keeps (keeps_requests_emit rfl) fun _ s₁ _ => ?_
    rw [outcome_bind_ok (outcome_get s₁)]
    split
    · exact .of_fault .noPart rfl
    · exact .of_silent rfl hsome
    · refine (askedOnce_send via (by nofun) s₁).weaken (fun r hr => ?_) nofun
      subst hr
      exact .inr ⟨hsome, _, _, rfl⟩
    · exact .of_fault _ rfl
  · exact .of_fault .wrongType rfl

theorem askedOnce_sendBatch (via : Connection) {b : WriteBatch} {collection : String}
    (hcollection : b.collection = some collection) (hwrites : b.isEmpty = false) (s : Session) :
    s.AskedOnce (· = .bulk (.str collection) (.list b.native)) False
      ((sendBatch via b).outcome s) := by
  unfold sendBatch
  rw [hcollection, hwrites]
  refine (askedOnce_send via (by nofun) s).then_keeps fun response => ?_
  refine .bind (keeps_failedCount? apart_requests.toApartFromReading response) fun failed => ?_
  dsimp only
  split
  · exact .bind (keeps_log apart_requests _ _ _) fun _ => .pure _
  · exact .pure _

/-! ### Searches -/

/-- Nothing in the configuration of a provider stands in the place of a method that takes part in an
operation on a collection. -/
def Provider.AddressesByItself (P : Provider) : Prop :=
  ∀ name ∈ ["__run__", "__setup__", "_get_collection_name", "_get_default_collection",
    "_perform_search", "search", "paginate", "count", "distinct", "flush", "delete"],
    P.settings.get? name = none

theorem Provider.AddressesByItself.of_settings {P' : Provider} (hown : P.AddressesByItself)
    (hsettings : ∀ name, name ≠ ownerName → P'.settings.get? name = P.settings.get? name) :
    P'.AddressesByItself := by
  intro name hname
  have hother : name ≠ ownerName := by
    rintro rfl
    simp [ownerName] at hname
  rw [hsettings name hother]
  exact hown name hname

section

variable (hp : s.providers[p]? = some P) (hown : P.AddressesByItself)
include hp hown

theorem askedOnce_runSearch (set : PredicateSet) (defaults : Value) :
    s.AskedOnce (fun r => ∃ name, s.chosen? P set.index set.source = some name ∧
        name.truthy = true ∧ r.SentFor name set.callback)
      (set.callback ≠ .null) ((Elasticsearch.runSearch p set.toValue defaults).outcome s) := by
  rw [Elasticsearch.runSearch, outcome_bind_ok (requireOwn_outcome hp (hown _ (by simp))),
    predicates_toValue, pure_bind]
  refine .bind_keeps (keeps_collectionName p _ _) fun name s₁ hname => ?_
  obtain ⟨rfl, hchosen, htruthy⟩ :=
    collectionName_ok hp (hown _ (by simp)) (hown _ (by simp)) hname
  refine .bind_keeps (keeps_textFieldsOf _) fun fields s₂ _ =>
    .bind_keeps (keeps_requests_connection p) fun via s₃ _ =>
    .bind_keeps (keeps_compile apart_requests.toApartFromReading set fields) fun query s₄ _ =>
    .bind_keeps (keeps_requestOptions apart_requests.toApartFromReading set defaults)
      fun options s₅ _ => ?_
  exact (askedOnce_executeSearch via name set query options s₅).weaken
    (fun r hr => ⟨name, hchosen, htruthy, hr⟩) fun hsilent => hsilent

theorem outcome_runSearch_of_missing (set : PredicateSet) (defaults : Value) {name : Value}
    (hchosen : s.chosen? P set.index set.source = some name) (hmissing : name.truthy = false) :
    (Elasticsearch.runSearch p set.toValue defaults).outcome s =
      (.error (.badRequest .noCollection), s) := by
  have hrefused := outcome_collectionName_of_missing hp (hown _ (by simp)) (hown _ (by simp))
    hchosen hmissing
  rw [Elasticsearch.runSearch, outcome_bind_ok (requireOwn_outcome hp (hown _ (by simp))),
    predicates_toValue, pure_bind, outcome_bind_error hrefused]

end

/-! ### Deletions -/

theorem startDelete_ok {collection : Value} {b : WriteBatch}
    (h : WriteBatch.startDelete collection = .ok b) :
    ∃ named : Option String, collection = (named.map Value.str).getD .null := by
  obtain ⟨checked, hchecked, -⟩ := exists_ok_of_bind h
  obtain ⟨fields, hfields, -⟩ := ModelKind.ofValue_ok rfl hchecked
  obtain ⟨name, _, hname, -, -⟩ := (Shape.checkFields_present_iff rfl).1 hfields
  exact (Shape.check_optional_str_iff.1 hname).2

theorem askedOnce_deletion (via : Connection) {ids : List Value}
    (hbare : ∀ v ∈ ids, recordOf? s v = none) (name : Value) :
    s.AskedOnce (fun r => (∃ collection, name = .str collection) ∧ r.Addresses name) (ids = [])
      ((do
        let b ← deletionBatch (.list ids) name
        return Response.withNative .null (← sendBatch via b) : Act Value).outcome s) := by
  have hitems : (Value.list ids).items? = some ids := rfl
  have hdeletable : ∀ v ∈ ids, s.Deletable v := fun v hv n r hr => by
    rw [hbare v hv] at hr
    cases hr
  cases hstart : WriteBatch.startDelete name with
  | error fault =>
    rw [deletionBatch, hstart]
    exact .of_fault fault rfl
  | ok b =>
    obtain ⟨named, rfl⟩ := startDelete_ok hstart
    rcases ids with _ | ⟨v, ids⟩
    · have hskipped : Keeps Session.requests (sendBatch via ⟨s.target? named [], []⟩) := by
        unfold sendBatch
        exact .bind (keeps_log apart_requests _ _ _) fun _ => .pure _
      have hnone := (hskipped.bind fun response =>
        (.pure (Response.withNative .null response))) s
      rw [outcome_bind_ok (deletionBatch_of_nil hitems named)]
      exact .of_silent hnone rfl
    · rcases named with _ | collection
      · have hfirst : s.Unaddressed none (v :: ids) := ⟨rfl, v, rfl, hbare v List.mem_cons_self⟩
        rw [outcome_bind_error (deletionBatch_of_unaddressed hitems hfirst)]
        exact .of_fault _ rfl
      -- with a collection, a batch is sent unless one of the identifiers has no text
      · have htarget : s.target? (some collection) (v :: ids) = some collection := rfl
        have hbuilt := deletionBatch_of_target hitems hdeletable htarget
        cases htexts : ((v :: ids).map s.deletedId).mapM Value.spell with
        | error fault =>
          rw [htexts] at hbuilt
          rw [outcome_bind_error hbuilt]
          exact .of_fault fault rfl
        | ok texts =>
        rw [htexts] at hbuilt
        rw [outcome_bind_ok hbuilt]
        refine ((askedOnce_sendBatch via rfl rfl s).then_keeps fun _ => .pure _).weaken
          (fun r hr => ?_) False.elim
        subst hr
        refine ⟨⟨collection, rfl⟩, rfl, collection, _, rfl, rfl, fun part hpart => ?_⟩
        obtain ⟨op, hop, hpart⟩ := List.mem_flatMap.1 hpart
        obtain ⟨w, hw, rfl⟩ := List.mem_map.1 hop
        rw [Session.deletion, Session.deletedFrom, hbare w hw] at hpart
        exact ⟨(s.deletedId w).text, List.mem_singleton.1 hpart⟩

/-! ### The operations -/

/-- An optional text as a value. -/
def optionalText (text : Option String) : Value := (text.map Value.str).getD .null

/-- A call of an operation that needs a collection. -/
inductive AddressedCall where
  /-- The hits of a predicate set. -/
  | search (set : PredicateSet)
  /-- One page of them. -/
  | paginate (set : PredicateSet) (perPage page : Int)
  /-- Their count. -/
  | count (set : PredicateSet)
  /-- The distinct values of a field, named in the call or in the predicate set. -/
  | distinct (set : PredicateSet) (field : Option String)
  /-- All documents deleted, of a collection or of that of a source. -/
  | flush (source : Value) (collection : Option String)
  /-- Bare identifiers deleted. -/
  | delete (ids : List Value) (collection : Option String)

namespace AddressedCall

/-- The name of the operation. -/
def name : AddressedCall → String
  | search _ => "search"
  | paginate .. => "paginate"
  | count _ => "count"
  | distinct .. => "distinct"
  | flush .. => "flush"
  | delete .. => "delete"

/-- The arguments of the operation. -/
def arguments : AddressedCall → Fields
  | search set | count set => [("predicates", set.toValue)]
  | paginate set perPage page =>
    [("predicates", set.toValue), ("per_page", .int perPage), ("page", .int page)]
  | distinct set field => [("predicates", set.toValue), ("field", optionalText field)]
  | flush source collection => [("source", source), ("collection", optionalText collection)]
  | delete ids collection => [("records", .list ids), ("collection", optionalText collection)]

/-- The collection that is named. -/
def named : AddressedCall → Value
  | search set | paginate set _ _ | count set | distinct set _ => set.index
  | flush _ collection | delete _ collection => optionalText collection

/-- The source that may have a collection. -/
def source : AddressedCall → Value
  | search set | paginate set _ _ | count set | distinct set _ => set.source
  | flush source _ => source
  | delete .. => .null

/-- The callback in the place of the search. -/
def callback : AddressedCall → Value
  | search set | paginate set _ _ | count set | distinct set _ => set.callback
  | flush .. | delete .. => .null

/-- The identifiers to delete. -/
def ids : AddressedCall → List Value
  | delete ids _ => ids
  | _ => []

/-- The method of the provider. -/
def act (p : Nat) : AddressedCall → Act Value
  | search set => Elasticsearch.search p set.toValue
  | paginate set perPage page => Elasticsearch.paginate p set.toValue (.int perPage) (.int page)
  | count set => Elasticsearch.count p set.toValue
  | distinct set field => Elasticsearch.distinct p set.toValue (optionalText field)
  | flush source collection => Elasticsearch.flush p source (optionalText collection)
  | delete ids collection => Elasticsearch.delete p (.list ids) (optionalText collection)

/-- The operation need not make a request to go well: a callback may answer by itself, and there may
be nothing to delete. -/
def Silent : AddressedCall → Prop
  | delete ids _ => ids = []
  | q => q.callback ≠ .null

/-- What has been chosen counts as missing.  The deletion of identifiers takes any text, also the
empty one. -/
def Refuses (chosen : Value) : AddressedCall → Prop
  | delete ids _ => ids ≠ [] ∧ chosen = .null
  | _ => chosen.truthy = false

/-- The operation goes to what has been chosen. -/
def Takes (chosen : Value) : AddressedCall → Prop
  | delete .. => ∃ collection, chosen = .str collection
  | _ => chosen.truthy = true

section

variable (hp : s.providers[p]? = some P) (hown : P.AddressesByItself)
include hp hown

omit hp hown in
theorem addressing_of_field (set : PredicateSet) (field : Value) :
    let wanted := if field.isNull then set else { set with distinctField := field }
    wanted.index = set.index ∧ wanted.source = set.source ∧ wanted.callback = set.callback := by
  dsimp only
  split <;> exact ⟨rfl, rfl, rfl⟩

theorem askedOnce_search (set : PredicateSet) :
    s.AskedOnce (fun r => ∃ chosen, s.chosen? P set.index set.source = some chosen ∧
        chosen.truthy = true ∧ r.SentFor chosen set.callback)
      (set.callback ≠ .null) ((Elasticsearch.search p set.toValue).outcome s) := by
  rw [Elasticsearch.search, predicates_toValue, pure_bind]
  exact (askedOnce_runSearch hp hown set _).then_keeps fun _ => keeps_searchAnswer _ _

theorem askedOnce_distinct (set : PredicateSet) (field : Value) :
    s.AskedOnce (fun r => ∃ chosen, s.chosen? P set.index set.source = some chosen ∧
        chosen.truthy = true ∧ r.SentFor chosen set.callback)
      (set.callback ≠ .null) ((Elasticsearch.distinct p set.toValue field).outcome s) := by
  unfold Elasticsearch.distinct
  dsimp only
  by_cases hempty : (set.toValue.isModel && !field.isNull && !field.truthy) = true
  · rw [if_pos hempty]
    exact .of_fault _ rfl
  · rw [if_neg hempty, predicates_toValue, pure_bind]
    obtain ⟨hindex, hsource, hcallback⟩ := addressing_of_field set field
    generalize (if field.isNull then set else { set with distinctField := field }) = wanted at *
    rw [← hindex, ← hsource, ← hcallback]
    split
    · exact (askedOnce_runSearch hp hown wanted _).then_keeps fun response =>
        .bind (keeps_bucketKeys apart_requests.toApartFromReading response _) fun _ => .pure _
    · exact .of_fault _ rfl

theorem askedOnce_flush (source collection : Value) :
    s.AskedOnce (fun r => ∃ chosen, s.chosen? P collection source = some chosen ∧
        chosen.truthy = true ∧ r.Addresses chosen)
      False ((Elasticsearch.flush p source collection).outcome s) := by
  rw [Elasticsearch.flush]
  refine .bind_keeps (keeps_collectionName p _ _) fun name s₁ hname => ?_
  obtain ⟨rfl, hchosen, htruthy⟩ :=
    collectionName_ok hp (hown _ (by simp)) (hown _ (by simp)) hname
  refine .bind_keeps (keeps_requests_connection p) fun via s₂ _ => ?_
  refine ((askedOnce_send via (by nofun) s₂).then_keeps fun _ => .pure _).weaken (fun r hr => ?_)
    nofun
  subst hr
  exact ⟨name, hchosen, htruthy, rfl⟩

theorem askedOnce_delete {ids : List Value} (hbare : ∀ v ∈ ids, recordOf? s v = none)
    (collection : Value) :
    s.AskedOnce (fun r => ∃ chosen, s.chosen? P collection .null = some chosen ∧
        (∃ collection, chosen = .str collection) ∧ r.Addresses chosen)
      (ids = []) ((Elasticsearch.delete p (.list ids) collection).outcome s) := by
  rw [Elasticsearch.delete]
  refine .bind_keeps (keeps_requests_connection p) fun via s₁ hconnection => ?_
  obtain ⟨hnaming, -⟩ := connection_ok hconnection
  obtain ⟨P₁, hp₁, hsettings, howner⟩ := Session.provider_of_naming hnaming hp
  have hown₁ : P₁.settings.get? "_get_default_collection" = none := by
    rw [hsettings]
    exact hown _ (by simp)
  have hrecord := Session.recordOf?_of_naming hnaming
  have hchosen := Session.chosen?_congr hnaming hsettings howner collection .null
  have hdeleted : ∀ chosen, s₁.chosen? P₁ collection .null = some chosen →
      s₁.AskedOnce (fun r => ∃ chosen, s.chosen? P collection .null = some chosen ∧
          (∃ collection, chosen = .str collection) ∧ r.Addresses chosen) (ids = [])
      ((do
        let b ← deletionBatch (.list ids) chosen
        return Response.withNative .null (← sendBatch via b) : Act Value).outcome s₁) := by
    intro chosen h
    exact (askedOnce_deletion via (hrecord ▸ hbare) chosen).weaken
      (fun r hr => ⟨chosen, hchosen ▸ h, hr⟩) fun hnone => hnone
  dsimp only
  rw [Session.chosen?] at hdeleted
  split
  · rename_i htruthy
    rw [pure_bind]
    exact hdeleted collection (if_pos htruthy)
  · rename_i hmissing
    rw [outcome_bind_ok (outcome_defaultCollection hp₁ hown₁)]
    exact hdeleted _ (if_neg hmissing)

/-- The method of the provider makes at most one request, and that goes to the collection that has
been chosen. -/
theorem askedOnce_act (q : AddressedCall) (hbare : ∀ v ∈ q.ids, recordOf? s v = none) :
    s.AskedOnce (fun r => ∃ chosen, s.chosen? P q.named q.source = some chosen ∧
      q.Takes chosen ∧ r.SentFor chosen q.callback) q.Silent ((q.act p).outcome s) := by
  cases q with
  | search set => exact askedOnce_search hp hown set
  | paginate set perPage page =>
    refine .bind_keeps (.lift _) fun window s₁ hwindow => ?_
    obtain rfl : s = s₁ := (Prod.mk.inj hwindow).2
    exact (askedOnce_runSearch hp hown set _).then_keeps fun _ => keeps_searchAnswer _ _
  | count set =>
    rw [act, Elasticsearch.count, outcome_bind_ok (requireOwn_outcome hp (hown _ (by simp)))]
    refine (askedOnce_search hp hown set).then_keeps fun answer => ?_
    split
    · exact .pure _
    · exact .throw _
  | distinct set field => exact askedOnce_distinct hp hown set _
  | flush source collection =>
    refine (askedOnce_flush hp hown source _).weaken (fun r hr => ?_) nofun
    obtain ⟨chosen, hchosen, htruthy, hr⟩ := hr
    exact ⟨chosen, hchosen, htruthy, .inl hr⟩
  | delete ids collection =>
    refine (askedOnce_delete hp hown hbare _).weaken (fun r hr => ?_) fun hnone => hnone
    obtain ⟨chosen, hchosen, hname, hr⟩ := hr
    exact ⟨chosen, hchosen, hname, .inl hr⟩

section

variable {chosen : Value}

theorem refused_search {set : PredicateSet}
    (hchosen : s.chosen? P set.index set.source = some chosen) (hmissing : chosen.truthy = false) :
    (Elasticsearch.search p set.toValue).outcome s = (.error (.badRequest .noCollection), s) := by
  rw [Elasticsearch.search, predicates_toValue, pure_bind,
    outcome_bind_error (outcome_runSearch_of_missing hp hown set _ hchosen hmissing)]

theorem refused_paginate {set : PredicateSet} (perPage page : Int)
    (hchosen : s.chosen? P set.index set.source = some chosen) (hmissing : chosen.truthy = false) :
    (Elasticsearch.paginate p set.toValue (.int perPage) (.int page)).outcome s =
      (.error (.badRequest .noCollection), s) := by
  -- numbers have a window
  obtain ⟨window, hwindow⟩ :
      ∃ window, Elasticsearch.pageWindow (.int perPage) (.int page) = .ok window := by
    unfold Elasticsearch.pageWindow Elasticsearch.orElse
    split <;> exact ⟨_, rfl⟩
  rw [Elasticsearch.paginate, hwindow, Act.lift_ok, pure_bind,
    outcome_bind_error (outcome_runSearch_of_missing hp hown set _ hchosen hmissing)]

theorem refused_distinct {set : PredicateSet} (field : Value)
    (hchosen : s.chosen? P set.index set.source = some chosen) (hmissing : chosen.truthy = false) :
    ∃ reason, (Elasticsearch.distinct p set.toValue field).outcome s =
      (.error (.badRequest reason), s) := by
  unfold Elasticsearch.distinct
  dsimp only
  by_cases hempty : (set.toValue.isModel && !field.isNull && !field.truthy) = true
  · rw [if_pos hempty]
    exact ⟨.noDistinctField, rfl⟩
  · rw [if_neg hempty, predicates_toValue, pure_bind]
    obtain ⟨hindex, hsource, -⟩ := addressing_of_field set field
    generalize (if field.isNull then set else { set with distinctField := field }) = wanted at *
    rw [← hindex, ← hsource] at hchosen
    split
    · exact ⟨.noCollection,
        outcome_bind_error (outcome_runSearch_of_missing hp hown wanted _ hchosen hmissing) _⟩
    · exact ⟨.noDistinctField, rfl⟩

theorem refused_delete (hready : P.ready = true) {ids : List Value} (hids : ids ≠ [])
    (hbare : ∀ v ∈ ids, recordOf? s v = none) {collection : Value}
    (hchosen : s.chosen? P collection .null = some .null) :
    (Elasticsearch.delete p (.list ids) collection).outcome s =
      (.error (.badRequest .noCollectionToDelete), s) := by
  have hconnection : (Elasticsearch.connection p).outcome s =
      (.ok (P.connection.getD (.unusable .null)), s) := by
    rw [Elasticsearch.connection, outcome_bind_ok (provider_outcome hp), if_pos hready]
    rfl
  have hmissing : ¬ collection.truthy = true := fun htruthy => by
    rw [Session.chosen?, if_pos htruthy] at hchosen
    cases hchosen
    cases htruthy
  have hconfigured : s.configured P = .null := by
    rw [Session.chosen?, if_neg hmissing] at hchosen
    exact Option.some.inj hchosen
  have hdefault := outcome_defaultCollection hp (hown _ (by simp))
  rw [hconfigured] at hdefault
  obtain ⟨v, rest, rfl⟩ := List.exists_cons_of_ne_nil hids
  have hfirst : s.Unaddressed none (v :: rest) := ⟨rfl, v, rfl, hbare v List.mem_cons_self⟩
  have hitems : (Value.list (v :: rest)).items? = some (v :: rest) := rfl
  have hrefused := deletionBatch_of_unaddressed hitems hfirst
  rw [Elasticsearch.delete, outcome_bind_ok hconnection]
  dsimp only
  rw [if_neg hmissing, outcome_bind_ok hdefault]
  exact outcome_bind_error hrefused _

/-- Where what has been chosen counts as missing, the operation is refused, and a provider with a
connection has done nothing for it. -/
theorem refused_act (hready : P.ready = true) (q : AddressedCall)
    (hbare : ∀ v ∈ q.ids, recordOf? s v = none)
    (hchosen : s.chosen? P q.named q.source = some chosen) (hrefuses : q.Refuses chosen) :
    ∃ reason, (q.act p).outcome s = (.error (.badRequest reason), s) := by
  cases q with
  | search set => exact ⟨_, refused_search hp hown hchosen hrefuses⟩
  | paginate set perPage page => exact ⟨_, refused_paginate hp hown perPage page hchosen hrefuses⟩
  | count set =>
    refine ⟨.noCollection, ?_⟩
    rw [act, Elasticsearch.count, outcome_bind_ok (requireOwn_outcome hp (hown _ (by simp))),
      outcome_bind_error (refused_search hp hown hchosen hrefuses)]
  | distinct set field => exact refused_distinct hp hown _ hchosen hrefuses
  | flush source collection =>
    have hname := outcome_collectionName_of_missing hp (hown _ (by simp)) (hown _ (by simp)) hchosen
      hrefuses
    exact ⟨_, outcome_bind_error hname _⟩
  | delete ids collection =>
    obtain ⟨hids, rfl⟩ := hrefuses
    exact ⟨_, refused_delete hp hown hready hids hbare hchosen⟩

end

end

end AddressedCall

end SearchKit
