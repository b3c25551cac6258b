import SearchKit.Proofs.Engine.Connections

/-!
# Runs of calls

An application makes one call after the other, of a provider for Elasticsearch and of the components
that are bound to it.  Each of them follows the life cycle of connections, so the run does.

* `EngineCall` : the calls of an application, and `EngineCall.obeys` that each of them follows the
  life cycle.
* `reached_of_calls` : a run of calls is a run of the life cycle.
* `newProvider_elasticsearch` : where the life cycle of a new provider starts.
* `lifecycle_of_calls` : **the life cycle of a client**, over any run of calls.
-/

namespace SearchKit

open Act

variable {p : Nat} {P : Provider} {cs : List Component} {l : Lifecycle}

/-! ### Calls -/

/-- A call of an application that has to do with a provider, itself or through a component. -/
inductive EngineCall where
  /-- An operation of a component. -/
  | operation (id : Nat) (name : String) (m : Method) (positional : List Value) (keywords : Fields)
  /-- An operation given as data, carried out by a component. -/
  | data (id : Nat) (operation context : Value)
  /-- The preparation of a component. -/
  | prepareComponent (id : Nat) (context : Value)
  /-- A method of the provider. -/
  | method (name : String) (m : Method) (positional : List Value) (keywords : Fields)
  /-- An operation given as data, carried out by the provider. -/
  | carryOut (operation context : Value)
  /-- The preparation of the provider. -/
  | prepare (context : Value)
  /-- A look at the connection. -/
  | look
  /-- The next item of a sequence. -/
  | pull (id : Nat)

namespace EngineCall

/-- What a call does, its answer left out. -/
def act (p : Nat) : EngineCall → Act Unit
  | operation id name m positional keywords => do
    let _ ← callOperation .standard id name m positional keywords
  | data id given context => do let _ ← runComponent .standard id given context
  | prepareComponent id context => do let _ ← SearchKit.prepareComponent .standard id context
  | method _ m positional keywords => do let _ ← m.call p positional keywords
  | carryOut given context => do
    let _ ← runProvider .standard (given.weight + 1) p given context
  | prepare context => ProviderClasses.standard.prepare p context
  | look => do let _ ← Elasticsearch.connection p
  | pull id => do let _ ← pull? id

/-- A call of the search engine: the component is bound to the provider, the operation is one of the
search engine's and the method one of the provider's, and no object is made anew. -/
def Proper (p : Nat) (cs : List Component) : EngineCall → Prop
  | operation id name m _ _ =>
    (name, m) ∈ SearchEngine.operations ∧ ∃ c, cs[id]? = some c ∧ c.provider = some p
  | data id given _ =>
    given.StandsForOrdinary ∧ ∃ c, cs[id]? = some c ∧ c.provider = some p
  | prepareComponent id _ => ∃ c, cs[id]? = some c ∧ c.provider = some p
  | method name m _ _ => (name, m) ∈ Elasticsearch.methods
  | carryOut given _ => given.Ordinary
  | prepare _ | look | pull _ => True

/-- Every call follows the life cycle, whatever its arguments and however it ends. -/
theorem obeys (hkind : P.kind = .elasticsearch) {call : EngineCall} (h : call.Proper p cs) :
    Obeys p P cs l (call.act p) fun _ _ => True := by
  have hanswered : ∀ {α : Type} {act : Act α} {post : α → Lifecycle → Prop},
      Obeys p P cs l act post → Obeys p P cs l (do let _ ← act) fun _ _ => True :=
    fun hact => hact.then_keeps fun _ => .pure _
  cases call with
  | operation id name m positional keywords =>
    obtain ⟨hoperation, c, hc, hbound⟩ := h
    exact hanswered (obeys_callOperation hkind hc hbound hoperation positional keywords)
  | data id given context =>
    obtain ⟨hordinary, c, hc, hbound⟩ := h
    exact hanswered (obeys_runComponent hkind hc hbound hordinary context)
  | prepareComponent id context =>
    obtain ⟨c, hc, hbound⟩ := h
    have hprepared : Obeys p P cs l (SearchKit.prepareComponent .standard id context)
        fun _ _ => True := by
      refine (obeys_component hc).bind fun c' l' ⟨_, hc'⟩ => ?_
      subst hc'
      rw [hbound]
      exact (obeys_prepare hkind context).then_keeps fun _ => .pure _
    exact hanswered hprepared
  | method name m positional keywords => exact hanswered (obeys_call h positional keywords)
  | carryOut given context => exact hanswered (obeys_runProvider hkind h _ context)
  | prepare context => exact obeys_prepare hkind context
  | look => exact hanswered obeys_connection
  | pull id => exact hanswered (.of_keeps (keeps_pull? reading_connections id))

end EngineCall

/-! ### Calls in a row -/

/-- The session after calls, each of them made where the one before has ended, well or not. -/
def Session.after (s : Session) (p : Nat) (calls : List EngineCall) : Session :=
  calls.foldl (fun s call => ((call.act p).outcome s).2) s

/-- A run of calls follows the life cycle, as each of them does. -/
theorem reached_of_calls (hkind : P.kind = .elasticsearch) {calls : List EngineCall}
    (hcalls : ∀ call ∈ calls, call.Proper p cs) {s : Session} (hs : l.Tracks p P cs s) :
    ∃ events l', (s.after p calls).backendEvents = s.backendEvents ++ events ∧
      Lifecycle.Reached P.hasCallback l events l' ∧ l'.Tracks p P cs (s.after p calls) := by
  induction calls generalizing s l with
  | nil => exact ⟨[], l, (List.append_nil _).symm, .start, hs⟩
  | cons call calls ih =>
    obtain ⟨events, l₁, hevents, hrun, htracks, -⟩ :=
      EngineCall.obeys hkind (hcalls call List.mem_cons_self) s hs
    obtain ⟨more, l₂, hmore, hrun', htracks'⟩ :=
      ih (fun call hcall => hcalls call (List.mem_cons_of_mem _ hcall)) htracks
    exact ⟨events ++ more, l₂, by rw [← List.append_assoc, ← hevents]; exact hmore,
      hrun.trans hrun', htracks'⟩

/-! ### A new provider -/

theorem Provider.kind_of_assign {P P' : Provider} {name : String} {v : Value}
    (h : P.assign name v = .ok P') : P'.kind = P.kind := by
  unfold assign at h
  split at h <;> cases h <;> rfl

theorem keeps_kind_assignTo (id n : Nat) (name : String) (v : Value) :
    Keeps (fun s => (s.providers[n]?).map Provider.kind) (assignTo id name v) := by
  intro s
  cases hp : s.providers[id]? with
  | none =>
    have hnone : (provider id).outcome s = (.error .noPart, s) := by
      rw [provider, outcome_bind_ok (outcome_get s), hp]
      rfl
    rw [assignTo, outcome_bind_error hnone]
  | some P =>
    rw [assignTo, outcome_bind_ok (provider_outcome hp)]
    cases hassign : P.assign name v with
    | error fault => rfl
    | ok P' =>
      rw [lift_ok, pure_bind]
      change (s.providers.set id P')[n]?.map Provider.kind = _
      by_cases hn : id = n
      · subst hn
        obtain ⟨hlt, -⟩ := List.getElem?_eq_some_iff.1 hp
        rw [List.getElem?_set_self hlt]
        dsimp only
        rw [hp]
        exact congrArg some (Provider.kind_of_assign hassign)
      · rw [List.getElem?_set_ne hn]

theorem eq_of_provider_ok {s s' : Session} {id : Nat} {P : Provider}
    (h : (provider id).outcome s = (.ok P, s')) : s' = s ∧ s.providers[id]? = some P := by
  rw [provider, outcome_bind_ok (outcome_get s)] at h
  cases hp : s.providers[id]? with
  | none => rw [hp] at h; cases h
  | some P' => rw [hp] at h; cases h; exact ⟨rfl, rfl⟩

/-- A new provider for Elasticsearch counts its connection as open exactly when it is given one, and
that is no client. -/
theorem newProvider_elasticsearch {s s' : Session} {keywords : Fields} {id : Nat}
    (h : (newProvider .elasticsearch keywords).outcome s = (.ok id, s')) :
    ∃ P : Provider, s'.providers[id]? = some P ∧ P.kind = .elasticsearch ∧
      P.ready = P.connection.isSome ∧ ∀ n, P.connection ≠ some (.client n) := by
  obtain ⟨a, s₁, -, h⟩ := eq_ok_of_bind h
  obtain ⟨n, s₂, hadd, h⟩ := eq_ok_of_bind h
  obtain ⟨⟨⟩, s₃, hinit, h⟩ := eq_ok_of_bind h
  cases h
  have hadded : s₂.providers[id]? = some { kind := .elasticsearch } := by
    cases hadd
    exact List.getElem?_concat_length
  obtain ⟨P₀, s₄, hP₀, hinit⟩ := eq_ok_of_bind hinit
  obtain ⟨rfl, hP₀⟩ := eq_of_provider_ok hP₀
  obtain rfl := Option.some.inj (hadded.symm.trans hP₀)
  obtain ⟨⟨⟩, s₅, hput, hinit⟩ := eq_ok_of_bind hinit
  obtain ⟨⟨⟩, s₆, hassigned, hinit⟩ := eq_ok_of_bind hinit
  -- neither the handle and the type nor the further keywords change the class
  have hkept : ∀ fs : Fields, Keeps (fun s => (s.providers[id]?).map Provider.kind)
      (fs.forM fun f => assignTo id f.1 f.2) := by
    intro fs
    induction fs with
    | nil => exact .pure _
    | cons f fs ih => exact .bind (keeps_kind_assignTo id id f.1 f.2) fun _ => ih
  have hkind : (s₆.providers[id]?).map Provider.kind = some .elasticsearch := by
    cases hput
    obtain ⟨hlt, -⟩ := List.getElem?_eq_some_iff.1 hadded
    refine ((hkept _).after hassigned).trans ?_
    dsimp only
    rw [List.getElem?_set_self hlt]
    rfl
  obtain ⟨P, hP, hkind⟩ := Option.map_eq_some_iff.1 hkind
  dsimp only at hinit
  rw [outcome_bind_ok (provider_outcome hP)] at hinit
  cases hinit
  obtain ⟨hlt, -⟩ := List.getElem?_eq_some_iff.1 hP
  refine ⟨_, List.getElem?_set_self hlt, hkind, rfl, fun n hn => ?_⟩
  change Connection.ofValue? _ = _ at hn
  unfold Connection.ofValue? at hn
  split at hn <;> cases hn

/-! ### The life cycle of a client -/

/-- Where a session stands before any of its connections has been closed, with a connection that a
provider holds. -/
def Session.lifecycle (s : Session) (held : Option Connection) : Lifecycle where
  held := held
  closed := []
  clients := s.clients
  constructions := s.constructions
  closings := s.closings
  replies := s.replies

/-- **The life cycle of a client.**  A provider for Elasticsearch counts its connection as open
exactly when it holds one, be it given by the application or none, and any calls are made of the
provider and of the components that are bound to it, with any arguments, while the constructions of
clients, the requests and the closings end as they may.  Then what reaches the backend is a run of
the life cycle: a client is built only where none is held, and a failure leaves the provider without
one; every request and every callback goes over the connection that is held then, which has not been
closed; a closing that goes well gives the connection up, and one that fails leaves it held.  (An
application can call a callback of the provider's configuration by hand, as an operation of that
name; then it is handed what the application gives, which is no connection of the provider's.)  After
the calls, and so after any part of them, the provider holds what the life cycle says, counts its
connection as open exactly when it holds one, and is otherwise as it was; what it holds has not been
closed, and no connection has been closed twice. -/
theorem Elasticsearch.lifecycle_of_calls {s : Session} {p : Nat} {P : Provider}
    {calls : List EngineCall} (hp : s.providers[p]? = some P) (hkind : P.kind = .elasticsearch)
    (hready : P.ready = P.connection.isSome)
    (hknown : ∀ n, P.connection = some (.client n) → n < s.clients)
    (hcalls : ∀ call ∈ calls, call.Proper p s.components) :
    ∃ events l, (s.after p calls).backendEvents = s.backendEvents ++ events ∧
      Lifecycle.Reached P.hasCallback (s.lifecycle P.connection) events l ∧
      (s.after p calls).providers[p]? =
        some { P with connection := l.held, ready := l.held.isSome } ∧
      (∀ via, l.held = some via → via ∉ l.closed) ∧ l.closed.Nodup := by
  have hsound : (s.lifecycle P.connection).Sound :=
    ⟨fun n hn => hn.elim (hknown n) nofun, fun _ _ => List.not_mem_nil, .nil⟩
  have hstart : (s.lifecycle P.connection).Tracks p P s.components s := {
    provider := by rw [hp, Provider.holding, Session.lifecycle, ← hready]
    components := rfl
    clients := rfl
    constructions := rfl
    closings := rfl
    replies := rfl
    sound := hsound }
  obtain ⟨events, l, hevents, hrun, htracks⟩ := reached_of_calls hkind hcalls hstart
  exact ⟨events, l, hevents, hrun, htracks.provider, htracks.sound.opened, htracks.sound.once⟩

/-- A search engine whose provider builds its clients: the first construction fails, and so does the
first closing. -/
def Session.ofClients : Session where
  providers := [{ kind := .elasticsearch, settings := [("hosts", .str "local")] }]
  components := [{ kind := .searchEngine, provider := some 0 }]
  constructions := [some { kind := "ConnectionError", message := "refused" }]
  closings := [some { kind := "ConnectionError", message := "reset" }]

/-- The operation that deletes an index. -/
def SearchEngine.dropping : Method := leftToProvider [{ name := "name", type := .str }]

/-- The method that closes the connection. -/
def Elasticsearch.closing : Method := operation [] fun id _ => close id

/-- The connection is looked at, an index is deleted, the connection is closed by a method of the
provider and by an operation given as data, and another index is deleted. -/
def EngineCall.reconnecting : List EngineCall := [
  .look, .operation 0 "delete_index" SearchEngine.dropping [.str "a"] [],
  .method "close" Elasticsearch.closing [] [], .data 0 (.str "close") .null,
  .operation 0 "delete_index" SearchEngine.dropping [.str "b"] []]

/-- The first look is in vain, and an index is deleted over the next client.  That is closed in vain
and then for good, and another index is deleted over a new client, which is held in the end. -/
theorem Elasticsearch.lifecycle_of_calls_reconnecting :
    let settings : Entries := [(.str "hosts", .str "local")]
    ∃ l, Lifecycle.Reached (fun _ => False) (Session.ofClients.lifecycle none) [
        .connect 0 settings, .connect 1 settings, .request (.client 1) (.deleteIndex (.str "a")),
        .request (.client 1) .close, .request (.client 1) .close, .connect 2 settings,
        .request (.client 2) (.deleteIndex (.str "b"))] l ∧
      l.held = some (.client 2) ∧ .client 2 ∉ l.closed ∧ l.closed.Nodup := by
  let P : Provider := { kind := .elasticsearch, settings := [("hosts", .str "local")] }
  have hp : Session.ofClients.providers[0]? = some P := rfl
  have hdropping : ("delete_index", SearchEngine.dropping) ∈ SearchEngine.operations :=
    List.mem_of_getElem? (i := 12) rfl
  have hclosing : ("close", Elasticsearch.closing) ∈ Elasticsearch.methods :=
    List.mem_of_getElem? (i := 13) rfl
  have hclose : (Value.str "close").StandsForOrdinary :=
    .of_eq (@Operation.ordinary { name := some "close", args := none } (by simp) (by simp)) rfl
  have hbound : ∃ c, Session.ofClients.components[0]? = some c ∧ c.provider = some 0 :=
    ⟨_, rfl, rfl⟩
  have hcalls : ∀ call ∈ EngineCall.reconnecting, call.Proper 0 Session.ofClients.components := by
    simp only [EngineCall.reconnecting, List.forall_mem_cons, List.not_mem_nil, false_imp_iff,
      implies_true, and_true]
    exact ⟨trivial, ⟨hdropping, hbound⟩, hclosing, ⟨hclose, hbound⟩, hdropping, hbound⟩
  obtain ⟨events, l, hevents, hrun, hheld, hopen, honce⟩ :=
    Elasticsearch.lifecycle_of_calls hp rfl rfl nofun hcalls
  have hholds : l.held = some (.client 2) := by
    have hend : (Session.ofClients.after 0 EngineCall.reconnecting).providers[0]? =
        some { P with connection := some (.client 2), ready := true } := rfl
    rw [hend] at hheld
    exact (congrArg Provider.connection (Option.some.inj hheld)).symm
  have hnone : P.hasCallback = fun _ => False := by
    funext name
    refine eq_false fun ⟨place, hplace⟩ => ?_
    cases (List.mem_singleton.1 (Fields.mem_of_get? hplace))
  have hstart : Session.ofClients.backendEvents ++ events = events := rfl
  rw [hstart] at hevents
  rw [hnone, ← hevents] at hrun
  exact ⟨l, hrun, hholds, hopen _ hholds, honce⟩

end SearchKit
