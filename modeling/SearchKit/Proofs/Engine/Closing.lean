import SearchKit.Proofs.Engine.EntryPoints
import SearchKit.Proofs.Engine.Runs

/-!
# Closing without a connection

A provider for Elasticsearch that holds no connection has nothing to close, and its own method does
nothing then.  But an operation of a component comes to the method only after the preparation of the
provider, and that makes sure that there is a connection: it builds a client, for nothing but the
closing that follows, or fails where the configuration names no address.

* `outcome_prepare_elasticsearch` : the preparation is the finding or building of a connection.
* `Elasticsearch.closeAnew` : a client built and closed.
* `outcome_close_of_none`, `outcome_close_after` : the method of the provider.
* `Elasticsearch.close_after_calls` : **closing after any run of calls**, by the method and by an
  operation.
* `Elasticsearch.close_twice` : the second of two closings fails, as the transport that the provider
  was given is gone.
-/

namespace SearchKit

open Act

variable {s s' : Session} {p : Nat} {P : Provider}

/-! ### Dealings with the backend -/

/-- A part of a session tells nothing of the dealings with the backend. -/
def ApartFromBackend {γ : Type} (view : Session → γ) : Prop :=
  ∀ s clients constructions closings replies trace,
    view { s with clients, constructions, closings, replies, trace } = view s

theorem apart_backend_providers : ApartFromBackend Session.providers := fun _ _ _ _ _ _ => rfl

theorem apart_backend_components : ApartFromBackend Session.components := fun _ _ _ _ _ _ => rfl

section

variable {γ : Type} {view : Session → γ} (h : ApartFromBackend view)
include h

theorem keeps_buildClient (settings : Entries) :
    Keeps view (Elasticsearch.buildClient settings) := by
  intro s
  rcases outcome_buildClient settings s with hrefused | hbuilt
  · rw [hrefused]
  · rw [hbuilt]
    exact h s _ _ _ _ _

theorem keeps_send (via : Connection) (r : Request) : Keeps view (send via r) := by
  have hreplied : Keeps view nextReply := fun s => by
    rw [outcome_nextReply]
    exact h s _ _ _ _ _
  have hclosed : Keeps view endClosing := fun s => by
    rw [outcome_endClosing]
    exact h s _ _ _ _ _
  have hasked : Keeps view (emit (.request via r)) := keeps_emit fun s => h s _ _ _ _ _
  cases via with
  | unusable v => exact .throw _
  | host => exact .bind hasked fun _ => hreplied
  | client n =>
    unfold send
    dsimp only
    split
    · refine .bind hasked fun _ => ?_
      cases r with
      | close => exact .bind hclosed fun _ => .pure _
      | _ => exact hreplied
    · exact .throw _

end

/-! ### The preparation -/

/-- The preparation of a provider for Elasticsearch is the finding or building of its connection. -/
theorem outcome_prepare_elasticsearch (hp : s.providers[p]? = some P)
    (hkind : P.kind = .elasticsearch) (hown : P.settings.get? "__setup__" = none)
    (context : Value) :
    (ProviderClasses.standard.prepare p context).outcome s =
      (do let _ ← Elasticsearch.connection p : Act Unit).outcome s := by
  have hsetup : ProviderClasses.standard.setup p context = setupProvider p context := rfl
  rw [ProviderClasses.prepare, outcome_bind_ok (requireOwn_outcome hp hown), hsetup]
  unfold setupProvider
  rw [outcome_bind_ok (provider_outcome hp), hkind]

theorem outcome_connection_of_none (hp : s.providers[p]? = some P) (hnone : P.ready = false)
    (hown : P.settings.get? "_get_client_params" = none) :
    (Elasticsearch.connection p).outcome s = (do
      let via ← Elasticsearch.buildClient (← Elasticsearch.clientSettings P)
      putProvider p { P with connection := some via, ready := true }
      return via : Act Connection).outcome s := by
  rw [Elasticsearch.connection, outcome_bind_ok (provider_outcome hp), hnone, if_neg nofun,
    outcome_bind_ok (requireOwn_outcome hp hown)]

/-! ### The method of the provider -/

/-- Without a connection the method does nothing. -/
theorem outcome_close_of_none (hp : s.providers[p]? = some P) (hnone : P.connection = none) :
    (Elasticsearch.close p).outcome s = (.ok (Response.toValue { result := .null }), s) := by
  rw [Elasticsearch.close, outcome_bind_ok (provider_outcome hp), hnone]
  cases P.ready <;> rfl

theorem outcome_close_of_some {via : Connection} (hp : s.providers[p]? = some P)
    (hready : P.ready = true) (hheld : P.connection = some via) :
    (Elasticsearch.close p).outcome s = (do
      let _ ← send via .close
      putProvider p { P with connection := none, ready := false }
      return Response.toValue { result := .null } : Act Value).outcome s := by
  rw [Elasticsearch.close, outcome_bind_ok (provider_outcome hp), hready, hheld]

/-- A closing that has gone well leaves nothing to close. -/
theorem outcome_close_after {answer : Value} (hp : s.providers[p]? = some P)
    (hready : P.ready = P.connection.isSome)
    (h : (Elasticsearch.close p).outcome s = (.ok answer, s')) :
    (Elasticsearch.close p).outcome s' = (.ok answer, s') := by
  cases hheld : P.connection with
  | none =>
    rw [outcome_close_of_none hp hheld] at h
    cases h
    exact outcome_close_of_none hp hheld
  | some via =>
    rw [outcome_close_of_some hp (by rw [hready, hheld]; rfl) hheld] at h
    obtain ⟨v, s₁, hsent, h⟩ := eq_ok_of_bind h
    have hproviders : s₁.providers = s.providers :=
      (keeps_send apart_backend_providers via .close).after hsent
    cases h
    have hlt : p < s₁.providers.length := by
      rw [hproviders]
      exact (List.getElem?_eq_some_iff.1 hp).1
    exact outcome_close_of_none (List.getElem?_set_self hlt) rfl

/-! ### The operation of a component -/

/-- A client built and closed again, in a provider that holds no connection. -/
def Elasticsearch.closeAnew (p : Nat) (P : Provider) : Act Value := do
  let via ← buildClient (← clientSettings P)
  putProvider p { P with connection := some via, ready := true }
  let _ ← send via .close
  putProvider p { P with connection := none, ready := false }
  return Response.toValue { result := .null }

/-- Nothing in the configuration of a provider stands in the place of a method that takes part in
closing. -/
def Provider.ClosesByItself (P : Provider) : Prop :=
  ∀ name ∈ ["__run__", "__setup__", "_get_client_params", "close"], P.settings.get? name = none

variable {id : Nat} {c : Component}

theorem outcome_carryOut_closing (hp : s.providers[p]? = some P) (hkind : P.kind = .elasticsearch)
    (hnone : P.ready = false) (hown : P.ClosesByItself) :
    (ProviderClasses.standard.carryOut p (.method Elasticsearch.closing)
      ⟨some "close", some (Entries.ofFields [])⟩ .null).outcome s =
      (Elasticsearch.closeAnew p P).outcome s := by
  have hcalled : Member.call .standard (Operation.toValue
      ⟨some "close", some (Entries.ofFields [])⟩).weight p [] (.method Elasticsearch.closing) =
      Elasticsearch.close p := rfl
  have hcontext : ∃ context, contextFor .null = pure context := ⟨_, rfl⟩
  obtain ⟨context, hcontext⟩ := hcontext
  rw [ProviderClasses.carryOut, hcontext, pure_bind,
    outcome_bind_ok (requireOwn_outcome hp (hown _ (by simp))), outcome_bind,
    outcome_prepare_elasticsearch hp hkind (hown _ (by simp)), ← outcome_bind, bind_assoc,
    outcome_bind, outcome_connection_of_none hp hnone (hown _ (by simp)), ← outcome_bind,
    Elasticsearch.closeAnew]
  simp only [bind_assoc, pure_bind]
  refine outcome_bind_congr fun settings s₁ hsettings => outcome_bind_congr fun via s₂ hbuilt => ?_
  -- the provider is what it was until the client is put into it
  have hproviders : s₂.providers = s.providers :=
    ((keeps_buildClient apart_backend_providers settings).after hbuilt).trans
      ((keeps_clientSettings apart_providers P).after hsettings)
  have hlt : p < s₂.providers.length := by
    rw [hproviders]
    exact (List.getElem?_eq_some_iff.1 hp).1
  refine outcome_bind_congr fun _ s₃ hput => ?_
  cases hput
  exact outcome_close_of_some (P := { P with connection := some via, ready := true })
    (List.getElem?_set_self hlt) rfl rfl

theorem keeps_components_closeAnew (p : Nat) (P : Provider) :
    Keeps Session.components (Elasticsearch.closeAnew p P) :=
  .bind (keeps_clientSettings apart_components P) fun settings =>
  .bind (keeps_buildClient apart_backend_components settings) fun via =>
  .bind (.modify fun _ => rfl) fun _ => .bind (keeps_send apart_backend_components via .close)
    fun _ => .bind (.modify fun _ => rfl) fun _ => .pure _

/-- The operation that closes the connection. -/
def SearchEngine.closing : Method := leftToProvider []

theorem outcome_callOperation_closing (hc : s.components[id]? = some c)
    (hbound : c.provider = some p) (hp : s.providers[p]? = some P)
    (hkind : P.kind = .elasticsearch) (hnone : P.ready = false) (hown : P.ClosesByItself) :
    (callOperation .standard id "close" SearchEngine.closing [] []).outcome s =
      match (Elasticsearch.closeAnew p P).outcome s with
      | (.ok answer, s') => (.ok (c.present answer), s')
      | (.error fault, s') => (.error fault.told, s') := by
  have hoperation : ("close", SearchEngine.closing) ∈ SearchEngine.operations :=
    List.mem_of_getElem? (i := 13) rfl
  have hmember : ProviderClasses.standard.memberOf? P "close" =
      some (.method Elasticsearch.closing) := by
    rw [ProviderClasses.memberOf?, hown _ (by simp), hkind]
    rfl
  have hkeywords : Fields.Distinct (Fields.erase contextKeyword []) := List.Pairwise.nil
  have hbind : SearchEngine.closing.signature.bind [] (Fields.erase contextKeyword []) =
      .ok ⟨[], []⟩ := rfl
  have hcarried := outcome_carryOut_closing hp hkind hnone hown
  rw [SearchEngine.outcome_callOperation_of_member hoperation hc hbound hp hmember rfl hkeywords
    hbind]
  change (match (ProviderClasses.standard.carryOut p (.method Elasticsearch.closing)
    ⟨some "close", some (Entries.ofFields [])⟩ .null).outcome s with
    | (.ok answer, s') => (do return (← component id).present answer : Act Value).outcome s'
    | (.error fault, s') => (.error fault.told, s')) = _
  rw [hcarried]
  rcases hends : (Elasticsearch.closeAnew p P).outcome s with ⟨fault | answer, s'⟩
  · rfl
  · have hcomponents : s'.components = s.components := (keeps_components_closeAnew p P).after hends
    have hc' : s'.components[id]? = some c := by rw [hcomponents, hc]
    dsimp only
    rw [outcome_bind_ok (component_outcome hc')]
    rfl

theorem outcome_closeAnew_of_no_address (hhosts : (P.settings.getD "hosts").isNull = true)
    (hcloud : (P.settings.getD "cloud_id").isNull = true) :
    (Elasticsearch.closeAnew p P).outcome s = (.error (.badRequest .noHosts), s) := by
  have hsettings : (Elasticsearch.clientSettings P).outcome s =
      (.error (.badRequest .noHosts), s) := by
    unfold Elasticsearch.clientSettings
    rw [hhosts, hcloud]
    rfl
  rw [Elasticsearch.closeAnew, outcome_bind_error hsettings]

theorem outcome_send_close_client (n : Nat) (s : Session) :
    (send (.client n) .close).outcome s =
      (foreseen s.closings.head?.join >>= fun _ => .ok .null, { s with
        closings := s.closings.tail, trace := s.trace ++ [.request (.client n) .close] }) := by
  have hsend : (send (.client n) .close).outcome s =
      (endClosing >>= fun _ => pure Value.null).outcome
        { s with trace := s.trace ++ [.request (.client n) .close] } := rfl
  rw [hsend, outcome_bind, outcome_endClosing]
  dsimp only
  cases s.closings.head?.join <;> rfl

/-- Where it goes well, one client has been built and closed, and the provider is as it was. -/
theorem closeAnew_ok {answer : Value} (hp : s.providers[p]? = some P) (hready : P.ready = false)
    (hnone : P.connection = none)
    (h : (Elasticsearch.closeAnew p P).outcome s = (.ok answer, s')) :
    ∃ settings, s'.backendEvents = s.backendEvents ++
        [.connect s.clients settings, .request (.client s.clients) .close] ∧
      s'.clients = s.clients + 1 ∧ s'.providers = s.providers := by
  obtain ⟨settings, s₁, hsettings, h⟩ := eq_ok_of_bind h
  obtain ⟨via, s₂, hbuilt, h⟩ := eq_ok_of_bind h
  obtain ⟨_, s₃, hput, h⟩ := eq_ok_of_bind h
  obtain ⟨v, s₄, hsent, h⟩ := eq_ok_of_bind h
  have hread := (keeps_clientSettings reading_connections P).after hsettings
  simp only [Session.connections, Prod.mk.injEq] at hread
  obtain ⟨hproviders, -, hclients, -, -, -, hevents⟩ := hread
  -- the client has been built, and has the next number
  obtain ⟨rfl, hs₂⟩ : via = .client s₁.clients ∧ s₂ = { s₁ with
      clients := s₁.clients + 1, constructions := s₁.constructions.tail
      trace := s₁.trace ++ [.connect s₁.clients settings] } := by
    rcases outcome_buildClient settings s₁ with hrefused | hbuilt'
    · rw [hrefused] at hbuilt
      cases hbuilt
    · rw [hbuilt'] at hbuilt
      cases hends : s₁.constructions.head?.join with
      | some failure => rw [hends] at hbuilt; cases hbuilt
      | none => rw [hends] at hbuilt; cases hbuilt; exact ⟨rfl, rfl⟩
  -- and it has been closed
  have hs₄ : s₄ = { s₃ with
      closings := s₃.closings.tail
      trace := s₃.trace ++ [.request (.client s₁.clients) .close] } := by
    rw [outcome_send_close_client] at hsent
    exact (Prod.mk.inj hsent).2.symm
  cases hput
  subst hs₂ hs₄
  cases h
  refine ⟨settings, ?_, congrArg (· + 1) hclients, ?_⟩
  · rw [← hevents, ← hclients]
    simp [Session.backendEvents, Event.isBackend]
  · obtain ⟨hlt, rfl⟩ := List.getElem?_eq_some_iff.1 hp
    have hgiven : { s.providers[p] with connection := none, ready := false } = s.providers[p] := by
      rw [← hnone, ← hready]
    change (s₁.providers.set p _).set p _ = s.providers
    rw [List.set_set, hproviders, hgiven, List.set_getElem_self]

/-! ### After any run of calls -/

/-- Closing where a provider holds no connection, by its own method and by the operation of a
component that is bound to it. -/
structure Elasticsearch.ClosesAnew (s : Session) (p id : Nat) (P : Provider) (c : Component) :
    Prop where
  /-- The provider's own method does nothing. -/
  own : (close p).outcome s = (.ok (Response.toValue { result := .null }), s)
  /-- The operation builds a client and closes it, and ends as this ends. -/
  operation : (callOperation .standard id "close" SearchEngine.closing [] []).outcome s =
    match (closeAnew p P).outcome s with
    | (.ok answer, s') => (.ok (c.present answer), s')
    | (.error fault, s') => (.error fault.told, s')
  /-- Where no address is configured the operation fails. -/
  unaddressed : (P.settings.getD "hosts").isNull = true →
    (P.settings.getD "cloud_id").isNull = true →
    (callOperation .standard id "close" SearchEngine.closing [] []).outcome s =
      (.error (.badRequest .noHosts), s)
  /-- Where the operation goes well, a client has been asked for and its closing requested, and the
  provider is as it was. -/
  built : ∀ answer s',
    (callOperation .standard id "close" SearchEngine.closing [] []).outcome s = (.ok answer, s') →
    ∃ settings, s'.backendEvents = s.backendEvents ++
        [.connect s.clients settings, .request (.client s.clients) .close] ∧
      s'.clients = s.clients + 1 ∧ s'.providers = s.providers

theorem Elasticsearch.closesAnew_of_none (hc : s.components[id]? = some c)
    (hbound : c.provider = some p) (hp : s.providers[p]? = some P) (hkind : P.kind = .elasticsearch)
    (hready : P.ready = false) (hnone : P.connection = none) (hown : P.ClosesByItself) :
    ClosesAnew s p id P c := by
  have hcalled := outcome_callOperation_closing hc hbound hp hkind hready hown
  refine ⟨outcome_close_of_none hp hnone, hcalled, fun hhosts hcloud => ?_, fun answer s' h => ?_⟩
  · rw [hcalled, outcome_closeAnew_of_no_address hhosts hcloud]
    rfl
  · rw [hcalled] at h
    rcases hends : (closeAnew p P).outcome s with ⟨fault | answer', s''⟩
    · rw [hends] at h
      cases h
    · rw [hends] at h
      cases h
      exact closeAnew_ok hp hready hnone hends

/-- A session stands at the start of the life cycle of a provider that counts its connection as open
exactly when it holds one. -/
theorem Session.tracks_lifecycle (hp : s.providers[p]? = some P)
    (hready : P.ready = P.connection.isSome)
    (hknown : ∀ n, P.connection = some (.client n) → n < s.clients) :
    (s.lifecycle P.connection).Tracks p P s.components s where
  provider := by rw [hp, Provider.holding, Session.lifecycle, ← hready]
  components := rfl
  clients := rfl
  constructions := rfl
  closings := rfl
  replies := rfl
  sound := ⟨fun n hn => hn.elim (hknown n) nofun, fun _ _ => List.not_mem_nil, .nil⟩

/-- **Closing after any run of calls.**  A provider for Elasticsearch counts its connection as open
exactly when it holds one, be it given by the application or none, and any calls are made of it and
of the components that are bound to it.  Then a closing by the provider's own method that goes well
makes any further one do nothing; and where the provider holds no connection, never having had one
or having given it up, its own method does nothing at all.  The operation of a component does more
there, as the provider is prepared for it: a client is built and closed, and whatever comes of this
comes of the operation.  So it fails where no address is configured, and where it goes well a client
has been asked for and its closing requested. -/
theorem Elasticsearch.close_after_calls {calls : List EngineCall} (hp : s.providers[p]? = some P)
    (hkind : P.kind = .elasticsearch) (hready : P.ready = P.connection.isSome)
    (hknown : ∀ n, P.connection = some (.client n) → n < s.clients) (hown : P.ClosesByItself)
    (hc : s.components[id]? = some c) (hbound : c.provider = some p)
    (hcalls : ∀ call ∈ calls, call.Proper p s.components) :
    (∀ answer s₁, (close p).outcome (s.after p calls) = (.ok answer, s₁) →
      (close p).outcome s₁ = (.ok answer, s₁)) ∧
    ∀ P', (s.after p calls).providers[p]? = some P' → P'.connection = none →
      ClosesAnew (s.after p calls) p id P' c := by
  obtain ⟨events, l, -, -, htracks⟩ :=
    reached_of_calls hkind hcalls (Session.tracks_lifecycle hp hready hknown)
  have hholds : (P.holding l.held).ready = (P.holding l.held).connection.isSome := rfl
  refine ⟨fun answer s₁ h => outcome_close_after htracks.provider hholds h, fun P' hP' hnone => ?_⟩
  obtain rfl : P.holding l.held = P' := Option.some.inj (htracks.provider.symm.trans hP')
  have hc' : (s.after p calls).components[id]? = some c := by rw [htracks.components, hc]
  have hopen : (P.holding l.held).ready = false := by rw [hholds, hnone]; rfl
  exact closesAnew_of_none hc' hbound hP' hkind hopen hnone hown

/-- The closing of the connection by the search engine. -/
def EngineCall.closing : EngineCall := .operation 0 "close" SearchEngine.closing [] []

/-- A search engine whose provider builds its clients, and has none yet. -/
def Session.ofHosts : Session where
  providers := [{ kind := .elasticsearch, settings := [("hosts", .str "local")] }]
  components := [{ kind := .searchEngine, provider := some 0 }]

/-- After a closing there is still no connection.  The provider's own method does nothing then; the
operation builds another client and closes it. -/
theorem Elasticsearch.close_after_closing :
    let s := Session.ofHosts.after 0 [.closing]
    (close 0).outcome s = (.ok (Response.toValue { result := .null }), s) ∧
    ((callOperation .standard 0 "close" SearchEngine.closing [] []).outcome s).2.backendEvents =
      [.connect 0 [(.str "hosts", .str "local")], .request (.client 0) .close,
        .connect 1 [(.str "hosts", .str "local")], .request (.client 1) .close] := by
  let P : Provider := { kind := .elasticsearch, settings := [("hosts", .str "local")] }
  have hp : Session.ofHosts.providers[0]? = some P := rfl
  have hc : Session.ofHosts.components[0]? = some { kind := .searchEngine, provider := some 0 } :=
    rfl
  have hown : P.ClosesByItself := by
    rw [Provider.ClosesByItself]
    simp only [List.forall_mem_cons]
    exact ⟨rfl, rfl, rfl, rfl, nofun⟩
  have hcalls : ∀ call ∈ [EngineCall.closing], call.Proper 0 Session.ofHosts.components := by
    rintro call hcall
    obtain rfl := List.mem_singleton.1 hcall
    exact ⟨List.mem_of_getElem? (i := 13) rfl, _, rfl, rfl⟩
  obtain ⟨-, hnone⟩ := Elasticsearch.close_after_calls hp rfl rfl nofun hown hc rfl hcalls
  have hcloses := hnone P rfl rfl
  refine ⟨hcloses.own, ?_⟩
  rw [hcloses.operation]
  rfl

/-- The transport of the application is closed by the operation, which goes well.  Nothing is held
then, and closing once more fails for the lack of an address. -/
theorem Elasticsearch.close_twice :
    let s := Session.ofTransport.after 0 [.closing]
    ((EngineCall.closing.act 0).outcome .ofTransport).1 = .ok () ∧
    s.providers[0]?.bind Provider.connection = none ∧
    ((callOperation .standard 0 "close" SearchEngine.closing [] []).outcome s).1 =
      .error (.badRequest .noHosts) := ⟨rfl, rfl, rfl⟩

end SearchKit
