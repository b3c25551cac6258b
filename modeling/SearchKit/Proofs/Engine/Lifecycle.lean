import SearchKit.Proofs.Engine.Frame
import SearchKit.Proofs.Session.Objects

/-!
# The life cycle of connections

A provider for Elasticsearch holds at most one connection.  It builds a client when it holds none,
sends every request over the connection that it holds, and gives the connection up when it has
closed it.  The life cycle says which events are possible where, and how each of them ends; a
session follows it as long as the provider holds what the life cycle says.

* `Lifecycle.Step` : the events and what they change.
* `Lifecycle.Sound` : a held connection is open, none is closed twice, and clients are numbered
  anew; every step and every run keep this (`Lifecycle.Sound.step`, `Lifecycle.Sound.reached`).
* `Lifecycle.Tracks` : where the session stands in the life cycle.
* `Act.Obeys` : a call that follows the life cycle, wherever it starts and however it ends.
* `obeys_connection`, `obeys_send`, `obeys_runCallback`, `obeys_close` : the calls that have to do
  with connections.
-/

namespace SearchKit

open Act

/-! ### What reaches the backend -/

/-- The event has to do with a connection to the backend: a client is built, a request is made, or a
callback is handed a connection. -/
def Event.isBackend : Event → Bool
  | .request .. | .connect .. | .callback .. => true
  | _ => false

/-- What has reached the backend in a session, in order. -/
def Session.backendEvents (s : Session) : List Event := s.trace.filter Event.isBackend

theorem Session.backendEvents_concat (s : Session) {e : Event} (he : e.isBackend = true) :
    (s.trace ++ [e]).filter Event.isBackend = s.backendEvents ++ [e] := by
  simp [Session.backendEvents, he]

/-- What a session tells of connections: who holds them, how the coming attempts end, and what has
reached the backend. -/
def Session.connections (s : Session) :=
  (s.providers, s.components, s.clients, s.constructions, s.closings, s.replies, s.backendEvents)

theorem apart_connections : ApartFromWriting Session.connections where
  fetch s name streamed ids := by
    simp [Session.connections, Session.backendEvents, Event.isBackend]
  sequences _ _ := rfl
  log s level logger text := by
    simp [Session.connections, Session.backendEvents, Event.isBackend]
  records _ _ := rfl

theorem reading_connections : ApartFromReading Session.connections :=
  apart_connections.toApartFromReading

/-! ### The life cycle -/

/-- Where the connections of a provider stand. -/
structure Lifecycle where
  /-- The connection that is held. -/
  held : Option Connection
  /-- The connections that have been closed, latest first. -/
  closed : List Connection
  /-- The count of clients asked for so far, which numbers the next one. -/
  clients : Nat
  /-- How the coming constructions of clients end. -/
  constructions : List (Option HostFailure)
  /-- How the coming closings of clients end. -/
  closings : List (Option HostFailure)
  /-- The answers of the backend still to come. -/
  replies : List Reply

namespace Lifecycle

/-- How the next closing of a connection ends: the transport of the application is answered like any
request, a client closes by itself. -/
def closingEnd (l : Lifecycle) : Connection → Option HostFailure
  | .host => match l.replies.head? with
    | some (.failure f) => some f
    | _ => none
  | _ => l.closings.head?.join

/-- The life cycle after an attempt to close a connection, however it ends. -/
def pastClosing (l : Lifecycle) : Connection → Lifecycle
  | .host => { l with replies := l.replies.tail }
  | _ => { l with closings := l.closings.tail }

/-- The events of a life cycle.  Some callbacks may be called by hand with a value that is no
connection; all others are handed the connection that is held. -/
inductive Step (byHand : String → Prop) : Lifecycle → Event → Lifecycle → Prop
  /-- A client is built where none is held, and is held then. -/
  | built {l : Lifecycle} {settings : Entries} (hheld : l.held = none)
      (hends : l.constructions.head?.join = none) :
      Step byHand l (.connect l.clients settings) { l with
        held := some (.client l.clients), clients := l.clients + 1
        constructions := l.constructions.tail }
  /-- A client cannot be built where none is held, and none is held then. -/
  | notBuilt {l : Lifecycle} {settings : Entries} {failure : HostFailure} (hheld : l.held = none)
      (hends : l.constructions.head?.join = some failure) :
      Step byHand l (.connect l.clients settings) { l with
        clients := l.clients + 1, constructions := l.constructions.tail }
  /-- A request is made over the connection that is held, which is open. -/
  | asked {l : Lifecycle} {via : Connection} {r : Request} (hheld : l.held = some via)
      (hopen : via ∉ l.closed) (hr : r ≠ .close) :
      Step byHand l (.request via r) { l with replies := l.replies.tail }
  /-- The connection that is held is closed and given up. -/
  | closed {l : Lifecycle} {via : Connection} (hheld : l.held = some via) (hopen : via ∉ l.closed)
      (hends : l.closingEnd via = none) :
      Step byHand l (.request via .close) { l.pastClosing via with
        held := none, closed := via :: l.closed }
  /-- The connection that is held cannot be closed, and is held then. -/
  | notClosed {l : Lifecycle} {via : Connection} {failure : HostFailure}
      (hheld : l.held = some via) (hopen : via ∉ l.closed)
      (hends : l.closingEnd via = some failure) :
      Step byHand l (.request via .close) (l.pastClosing via)
  /-- A callback is handed the connection that is held, which is open. -/
  | called {l : Lifecycle} {via : Connection} {name : String} {query body : Value}
      (hheld : l.held = some via) (hopen : via ∉ l.closed) :
      Step byHand l (.callback via name query body) l
  /-- A callback is called by hand. -/
  | calledByHand {l : Lifecycle} {v : Value} {name : String} {query body : Value}
      (hname : byHand name) : Step byHand l (.callback (.unusable v) name query body) l

variable {byHand : String → Prop} {l l₁ l₂ : Lifecycle} {e : Event} {events more : List Event}

/-- A run of events, one after the other. -/
inductive Reached (byHand : String → Prop) (l : Lifecycle) : List Event → Lifecycle → Prop
  /-- No event leaves the life cycle as it is. -/
  | start : Reached byHand l [] l
  /-- A run with a further event. -/
  | step {events : List Event} {e : Event} {l₁ l₂ : Lifecycle} (hrun : Reached byHand l events l₁)
      (hstep : Step byHand l₁ e l₂) : Reached byHand l (events ++ [e]) l₂

theorem Reached.single (hstep : Step byHand l e l₁) : Reached byHand l [e] l₁ := .step .start hstep

theorem Reached.trans (hrun : Reached byHand l events l₁) (hmore : Reached byHand l₁ more l₂) :
    Reached byHand l (events ++ more) l₂ := by
  induction hmore with
  | start => rwa [List.append_nil]
  | step _ hstep ih => rw [← List.append_assoc]; exact .step ih hstep

/-- The connections are in order. -/
structure Sound (l : Lifecycle) : Prop where
  /-- The number of the next client is a new one. -/
  known : ∀ n, l.held = some (.client n) ∨ .client n ∈ l.closed → n < l.clients
  /-- The connection that is held has not been closed. -/
  opened : ∀ via, l.held = some via → via ∉ l.closed
  /-- No connection has been closed twice. -/
  once : l.closed.Nodup

/-- Every event keeps the connections in order. -/
theorem Sound.step (hstep : Step byHand l e l₁) (h : l.Sound) : l₁.Sound := by
  cases hstep with
  | built hheld _ =>
    -- its number is that of the next client, which no closed connection has
    have hnew : Connection.client l.clients ∉ l.closed := fun hmem =>
      Nat.lt_irrefl _ (h.known _ (.inr hmem))
    refine ⟨fun n hn => ?_, fun via hvia => ?_, h.once⟩
    · rcases hn with hn | hn
      · cases hn
        exact Nat.lt_succ_self _
      · exact Nat.lt_succ_of_lt (h.known n (.inr hn))
    · cases hvia
      exact hnew
  | notBuilt hheld _ =>
    exact ⟨fun n hn => Nat.lt_succ_of_lt (h.known n hn), h.opened, h.once⟩
  | asked => exact ⟨h.known, h.opened, h.once⟩
  | @closed via hheld hopen _ =>
    have hclients : (l.pastClosing via).clients = l.clients := by cases via <;> rfl
    refine ⟨fun n hn => ?_, fun _ hvia => (nomatch hvia), List.nodup_cons.2 ⟨hopen, h.once⟩⟩
    dsimp only
    rw [hclients]
    rcases hn with hn | hn
    · cases hn
    · rcases List.mem_cons.1 hn with hn | hn
      · exact h.known n (.inl (hn ▸ hheld))
      · exact h.known n (.inr hn)
  | @notClosed via _ _ _ _ => cases via <;> exact ⟨h.known, h.opened, h.once⟩
  | called => exact h
  | calledByHand => exact h

/-- A run keeps the connections in order. -/
theorem Sound.reached (hrun : Reached byHand l events l₁) (h : l.Sound) : l₁.Sound := by
  induction hrun with
  | start => exact h
  | step _ hstep ih => exact .step hstep ih

end Lifecycle

/-! ### The life cycle of a session -/

/-- The provider with a connection that it holds; it counts it as open exactly when there is one. -/
def Provider.holding (P : Provider) (held : Option Connection) : Provider :=
  { P with connection := held, ready := held.isSome }

/-- The configuration of the provider has a callback, which can be called by hand. -/
def Provider.hasCallback (P : Provider) (name : String) : Prop :=
  ∃ place, P.settings.get? place = some (.callback name)

/-- The session stands at a point of the life cycle: the provider at a place is as it was but for
the connection that it holds, and so are the components. -/
structure Lifecycle.Tracks (p : Nat) (P : Provider) (cs : List Component) (l : Lifecycle)
    (s : Session) : Prop where
  /-- The provider holds the connection that is held. -/
  provider : s.providers[p]? = some (P.holding l.held)
  /-- The components are as they were. -/
  components : s.components = cs
  /-- The clients are counted alike. -/
  clients : s.clients = l.clients
  /-- The constructions to come are the same. -/
  constructions : s.constructions = l.constructions
  /-- The closings to come are the same. -/
  closings : s.closings = l.closings
  /-- The answers to come are the same. -/
  replies : s.replies = l.replies
  /-- The connections are in order. -/
  sound : l.Sound

section

variable {p : Nat} {P : Provider} {cs : List Component} {l : Lifecycle}

theorem Lifecycle.Tracks.congr {s s' : Session} (h : l.Tracks p P cs s)
    (hsame : s'.connections = s.connections) : l.Tracks p P cs s' := by
  simp only [Session.connections, Prod.mk.injEq] at hsame
  obtain ⟨hproviders, hcomponents, hclients, hconstructions, hclosings, hreplies, -⟩ := hsame
  exact ⟨hproviders ▸ h.provider, hcomponents ▸ h.components, hclients ▸ h.clients,
    hconstructions ▸ h.constructions, hclosings ▸ h.closings, hreplies ▸ h.replies, h.sound⟩

/-- The call follows the life cycle from a point of it, wherever it starts there and however it
ends: what reaches the backend is a run of events, and the session stands where the run ends.  If
the call goes well, its result and that point meet a condition. -/
def Act.Obeys {α : Type} (p : Nat) (P : Provider) (cs : List Component) (l : Lifecycle)
    (act : Act α) (post : α → Lifecycle → Prop) : Prop :=
  ∀ s, l.Tracks p P cs s → ∃ events l',
    (act.outcome s).2.backendEvents = s.backendEvents ++ events ∧
    Lifecycle.Reached P.hasCallback l events l' ∧ l'.Tracks p P cs (act.outcome s).2 ∧
    ∀ a, (act.outcome s).1 = .ok a → post a l'

namespace Act.Obeys

variable {α β : Type} {post : α → Lifecycle → Prop} {post' : β → Lifecycle → Prop} {act : Act α}
  {next : α → Act β}

theorem of_keeps (h : Keeps Session.connections act) : Obeys p P cs l act fun _ l' => l' = l := by
  intro s hs
  have hsame := h s
  have hevents : (act.outcome s).2.backendEvents = s.backendEvents := by
    simp only [Session.connections, Prod.mk.injEq] at hsame
    exact hsame.2.2.2.2.2.2
  exact ⟨[], l, by rw [hevents, List.append_nil], .start, hs.congr hsame, fun _ _ => rfl⟩

theorem of_keeps_ok (h : Keeps Session.connections act) :
    Obeys p P cs l act fun a l' => l' = l ∧ ∃ s s', act.outcome s = (.ok a, s') := by
  intro s hs
  obtain ⟨events, l', hevents, hrun, htracks, hends⟩ := of_keeps h s hs
  exact ⟨events, l', hevents, hrun, htracks, fun a ha => ⟨hends a ha, s, _, Prod.ext ha rfl⟩⟩

theorem weaken (h : Obeys p P cs l act post) {weaker : α → Lifecycle → Prop}
    (hpost : ∀ a l', post a l' → weaker a l') : Obeys p P cs l act weaker := by
  intro s hs
  obtain ⟨events, l', hevents, hrun, htracks, hends⟩ := h s hs
  exact ⟨events, l', hevents, hrun, htracks, fun a ha => hpost a l' (hends a ha)⟩

theorem kept (h : Keeps Session.connections act) : Obeys p P cs l act fun _ _ => True :=
  (of_keeps h).weaken fun _ _ _ => trivial

theorem bind (hact : Obeys p P cs l act post)
    (hnext : ∀ a l', post a l' → Obeys p P cs l' (next a) post') :
    Obeys p P cs l (act >>= next) post' := by
  intro s hs
  obtain ⟨events, l', hevents, hrun, htracks, hends⟩ := hact s hs
  rw [outcome_bind]
  rcases hact : act.outcome s with ⟨fault | a, s'⟩
  · rw [hact] at hevents htracks
    exact ⟨events, l', hevents, hrun, htracks, nofun⟩
  · rw [hact] at hevents htracks hends
    obtain ⟨more, l'', hmore, hrun', htracks', hends'⟩ := hnext a l' (hends a rfl) s' htracks
    exact ⟨events ++ more, l'', by rw [hmore, hevents, List.append_assoc], hrun.trans hrun',
      htracks', hends'⟩

theorem after_keeps (hact : Keeps Session.connections act)
    (hnext : ∀ a, Obeys p P cs l (next a) post') : Obeys p P cs l (act >>= next) post' :=
  (of_keeps hact).bind fun a _ hl => hl ▸ hnext a

theorem then_keeps (hact : Obeys p P cs l act post)
    (hnext : ∀ a, Keeps Session.connections (next a)) :
    Obeys p P cs l (act >>= next) fun _ _ => True :=
  hact.bind fun a _ _ => .kept (hnext a)

theorem tryCatch {handler : Fault → Act α} (hact : Obeys p P cs l act post)
    (hhandler : ∀ fault l', Obeys p P cs l' (handler fault) post) :
    Obeys p P cs l (tryCatch act handler) post := by
  intro s hs
  obtain ⟨events, l', hevents, hrun, htracks, hends⟩ := hact s hs
  rw [outcome_tryCatch]
  rcases hact : act.outcome s with ⟨fault | a, s'⟩
  · rw [hact] at hevents htracks
    obtain ⟨more, l'', hmore, hrun', htracks', hends'⟩ := hhandler fault l' s' htracks
    exact ⟨events ++ more, l'', by rw [hmore, hevents, List.append_assoc], hrun.trans hrun',
      htracks', hends'⟩
  · rw [hact] at hevents htracks hends
    exact ⟨events, l', hevents, hrun, htracks, hends⟩

end Act.Obeys

/-! ### Requests -/

/-- What an answer of the backend gives, an empty map where there is none. -/
def Reply.given : Option Reply → Except Fault Value
  | some (.answer v) => .ok v
  | some (.failure f) => .error f.fault
  | none => .ok (.dict [])

theorem outcome_nextReply (s : Session) : nextReply.outcome s =
    (Reply.given s.replies.head?, { s with replies := s.replies.tail }) := by
  rw [nextReply, outcome_bind_ok (outcome_get s)]
  obtain ⟨records, sources, callbacks, replies, sequences, clients, constructions, closings,
    providers, components, trace⟩ := s
  cases replies with
  | nil => rfl
  | cons reply replies => cases reply <;> rfl

theorem session_send {via : Connection} {r : Request} (hr : r ≠ .close) (s : Session) :
    ((send via r).outcome s).2 = s ∨ ((send via r).outcome s).2 =
      { s with trace := s.trace ++ [.request via r], replies := s.replies.tail } := by
  have hasked : ((do emit (.request via r); nextReply : Act Value).outcome s).2 =
      { s with trace := s.trace ++ [.request via r], replies := s.replies.tail } :=
    congrArg Prod.snd (outcome_nextReply _)
  cases via with
  | host => exact .inr hasked
  | client n =>
    unfold send
    dsimp only
    split
    · refine .inr ?_
      cases r with
      | close => exact absurd rfl hr
      | _ => exact hasked
    · exact .inl rfl
  | unusable v => exact .inl rfl

/-- A request over the connection that is held. -/
theorem obeys_send {via : Connection} (hheld : l.held = some via) {r : Request} (hr : r ≠ .close) :
    Obeys p P cs l (send via r) fun _ l' => l'.held = some via := by
  intro s hs
  rcases session_send hr s with hsame | hasked
  · rw [hsame]
    exact ⟨[], l, (List.append_nil _).symm, .start, hs, fun _ _ => hheld⟩
  · rw [hasked]
    have hstep : Lifecycle.Step P.hasCallback l (.request via r)
        { l with replies := l.replies.tail } := .asked hheld (hs.sound.opened via hheld) hr
    exact ⟨_, _, s.backendEvents_concat rfl, .single hstep, ⟨hs.provider, hs.components,
      hs.clients, hs.constructions, hs.closings, congrArg List.tail hs.replies,
      hs.sound.step hstep⟩, fun _ _ => hheld⟩

/-- A callback that is handed the connection that is held, or is called by hand. -/
theorem obeys_runCallback {via : Connection} {name : String}
    (hvia : l.held = some via ∨ P.hasCallback name ∧ ∃ v, via = .unusable v) (query body : Value) :
    Obeys p P cs l (runCallback via name query body) fun _ _ => True := by
  have hcalled : Obeys p P cs l (emit (.callback via name query body)) fun _ l' => l' = l := by
    intro s hs
    have hstep : Lifecycle.Step P.hasCallback l (.callback via name query body) l := by
      rcases hvia with hheld | ⟨hname, v, rfl⟩
      · exact .called hheld (hs.sound.opened via hheld)
      · exact .calledByHand hname
    exact ⟨_, l, s.backendEvents_concat rfl, .single hstep, ⟨hs.provider, hs.components,
      hs.clients, hs.constructions, hs.closings, hs.replies, hs.sound⟩, fun _ _ => rfl⟩
  have hforwarded : ∀ index, Obeys p P cs l (send via (.search index body)) fun _ _ => True := by
    intro index
    rcases hvia with hheld | ⟨-, v, rfl⟩
    · exact (obeys_send hheld (by simp)).weaken fun _ _ _ => trivial
    · exact .kept (.throw _)
  refine hcalled.bind fun _ l' hl => ?_
  subst hl
  refine .after_keeps .get fun s => ?_
  split
  · exact .kept (.throw _)
  · exact .kept (.pure _)
  · exact hforwarded _
  · exact .kept (.throw _)

/-! ### The connection -/

theorem obeys_provider :
    Obeys p P cs l (provider p) fun q l' => l' = l ∧ q = P.holding l.held := by
  intro s hs
  rw [provider_outcome hs.provider]
  refine ⟨[], l, (List.append_nil _).symm, .start, hs, fun q hq => ⟨rfl, ?_⟩⟩
  cases hq
  rfl

/-- A construction or a closing that has been foreseen. -/
def foreseen : Option HostFailure → Except Fault Unit
  | some f => .error f.fault
  | none => .ok ()

theorem outcome_endConstruction (s : Session) : endConstruction.outcome s =
    (foreseen s.constructions.head?.join, { s with constructions := s.constructions.tail }) := by
  rw [endConstruction, outcome_bind_ok (outcome_get s), outcome_bind_ok (outcome_set _ _)]
  cases s.constructions.head?.join <;> rfl

theorem outcome_endClosing (s : Session) : endClosing.outcome s =
    (foreseen s.closings.head?.join, { s with closings := s.closings.tail }) := by
  rw [endClosing, outcome_bind_ok (outcome_get s), outcome_bind_ok (outcome_set _ _)]
  cases s.closings.head?.join <;> rfl

theorem outcome_buildClient (settings : Entries) (s : Session) :
    (Elasticsearch.buildClient settings).outcome s = (.error .wrongType, s) ∨
    (Elasticsearch.buildClient settings).outcome s =
      (foreseen s.constructions.head?.join >>= fun _ => .ok (.client s.clients), { s with
        clients := s.clients + 1, constructions := s.constructions.tail
        trace := s.trace ++ [.connect s.clients settings] }) := by
  unfold Elasticsearch.buildClient
  dsimp only
  split
  · split
    · exact .inl rfl
    · refine .inr ?_
      rw [outcome_bind_ok (outcome_get s), outcome_bind_ok (outcome_set s _)]
      have hemit :
          (emit (.connect s.clients settings)).outcome { s with clients := s.clients + 1 } =
            (.ok ⟨⟩, { s with
              clients := s.clients + 1, trace := s.trace ++ [.connect s.clients settings] }) := rfl
      rw [outcome_bind_ok hemit, outcome_bind, outcome_endConstruction]
      dsimp only
      cases s.constructions.head?.join <;> rfl
  · exact .inl rfl

theorem obeys_buildClient (hheld : l.held = none) (settings : Entries) :
    Obeys p P cs l (do
      let via ← Elasticsearch.buildClient settings
      putProvider p { P.holding l.held with connection := some via, ready := true }
      return via) fun via l' => l'.held = some via := by
  intro s hs
  rcases outcome_buildClient settings s with hrefused | hbuilt
  · rw [outcome_bind_error hrefused]
    exact ⟨[], l, (List.append_nil _).symm, .start, hs, nofun⟩
  · rw [hs.constructions, hs.clients] at hbuilt
    have hevents :=
      s.backendEvents_concat (rfl : (Event.connect l.clients settings).isBackend = true)
    -- the event is in the trace however the construction ends, but only a good end is held
    cases hends : l.constructions.head?.join with
    | some failure =>
      rw [hends] at hbuilt
      rw [outcome_bind_error hbuilt]
      have hstep := @Lifecycle.Step.notBuilt P.hasCallback l settings failure hheld hends
      exact ⟨_, _, hevents, .single hstep, ⟨hs.provider, hs.components, rfl, rfl, hs.closings,
        hs.replies, hs.sound.step hstep⟩, nofun⟩
    | none =>
      rw [hends] at hbuilt
      rw [outcome_bind_ok hbuilt]
      have hstep := @Lifecycle.Step.built P.hasCallback l settings hheld hends
      obtain ⟨hlt, -⟩ := List.getElem?_eq_some_iff.1 hs.provider
      refine ⟨_, _, hevents, .single hstep, ⟨?_, hs.components, rfl, rfl, hs.closings,
        hs.replies, hs.sound.step hstep⟩, fun via hvia => by cases hvia; rfl⟩
      exact List.getElem?_set_self hlt

/-- The connection that is held, or a new one. -/
theorem obeys_connection :
    Obeys p P cs l (Elasticsearch.connection p) fun via l' => l'.held = some via := by
  refine obeys_provider.bind fun q l' ⟨hl, hq⟩ => ?_
  subst hl hq
  cases hheld : l'.held with
  | some via =>
    have hopen : (P.holding (some via)).ready = true := rfl
    rw [if_pos hopen]
    intro s hs
    exact ⟨[], l', (List.append_nil _).symm, .start, hs, fun via' hvia => by
      cases hvia
      exact hheld⟩
  | none =>
    have hnone : ¬(P.holding none).ready = true := by simp [Provider.holding]
    rw [if_neg hnone]
    have h := @obeys_buildClient p P cs l' hheld
    rw [hheld] at h
    exact .after_keeps (keeps_requireOwn p _) fun _ =>
      .after_keeps (keeps_clientSettings reading_connections _) fun settings => h settings

/-! ### Closing -/

theorem outcome_send_close {s : Session} (hs : l.Tracks p P cs s) (via : Connection) :
    (send via .close).outcome s = (.error .noPart, s) ∨
    ∃ v, (send via .close).outcome s =
      (foreseen (l.closingEnd via) >>= fun _ => .ok v, { s with
        closings := (l.pastClosing via).closings, replies := (l.pastClosing via).replies
        trace := s.trace ++ [.request via .close] }) := by
  cases via with
  | unusable v => exact .inl rfl
  | host =>
    have hsend : (send .host .close).outcome s =
        nextReply.outcome { s with trace := s.trace ++ [.request .host .close] } := rfl
    rw [hsend, outcome_nextReply]
    dsimp only [Lifecycle.pastClosing, Lifecycle.closingEnd]
    rw [hs.replies, ← hs.closings]
    cases l.replies.head? with
    | none => exact .inr ⟨_, rfl⟩
    | some reply =>
      cases reply with
      | answer v => exact .inr ⟨v, rfl⟩
      | failure f => exact .inr ⟨.null, rfl⟩
  | client n =>
    have hsend : (send (.client n) .close).outcome s =
        (endClosing >>= fun _ => pure Value.null).outcome
          { s with trace := s.trace ++ [.request (.client n) .close] } := rfl
    rw [hsend, outcome_bind, outcome_endClosing]
    dsimp only [Lifecycle.pastClosing, Lifecycle.closingEnd]
    rw [hs.closings, ← hs.replies]
    cases l.closings.head?.join <;> exact .inr ⟨.null, rfl⟩

theorem obeys_giveUp {via : Connection} (hheld : l.held = some via) :
    Obeys p P cs l (do
      let _ ← send via .close
      putProvider p (P.holding none)) fun _ _ => True := by
  intro s hs
  have hopen := hs.sound.opened via hheld
  have hkept : (l.pastClosing via).held = some via ∧ (l.pastClosing via).clients = l.clients ∧
      (l.pastClosing via).constructions = l.constructions := by
    cases via <;> exact ⟨hheld, rfl, rfl⟩
  have hevents := s.backendEvents_concat (rfl : (Event.request via .close).isBackend = true)
  rcases outcome_send_close hs via with hrefused | ⟨v, hclosed⟩
  · rw [outcome_bind_error hrefused]
    exact ⟨[], l, (List.append_nil _).symm, .start, hs, nofun⟩
  · cases hends : l.closingEnd via with
    | some failure =>
      rw [hends] at hclosed
      rw [outcome_bind_error hclosed]
      have hstep := @Lifecycle.Step.notClosed P.hasCallback l via failure hheld hopen hends
      refine ⟨_, _, hevents, .single hstep, ⟨?_, hs.components, ?_, ?_, rfl, rfl,
        hs.sound.step hstep⟩, nofun⟩
      · rw [hkept.1, ← hheld]
        exact hs.provider
      · exact hs.clients.trans hkept.2.1.symm
      · exact hs.constructions.trans hkept.2.2.symm
    | none =>
      rw [hends] at hclosed
      rw [outcome_bind_ok hclosed]
      have hstep := @Lifecycle.Step.closed P.hasCallback l via hheld hopen hends
      obtain ⟨hlt, -⟩ := List.getElem?_eq_some_iff.1 hs.provider
      exact ⟨_, _, hevents, .single hstep, ⟨List.getElem?_set_self hlt, hs.components,
        hs.clients.trans hkept.2.1.symm, hs.constructions.trans hkept.2.2.symm, rfl, rfl,
        hs.sound.step hstep⟩, fun _ _ => trivial⟩

/-- Closing gives up the connection that is held, if there is one. -/
theorem obeys_close : Obeys p P cs l (Elasticsearch.close p) fun _ _ => True := by
  refine obeys_provider.bind fun q l' ⟨hl, hq⟩ => ?_
  subst hl hq
  have hanswer : Keeps Session.connections
      (pure (Response.toValue { result := .null }) : Act Value) := .pure _
  cases hheld : l'.held with
  | none => exact .kept hanswer
  | some via =>
    have hclosed := (@obeys_giveUp p P cs l' via hheld).then_keeps fun _ => hanswer
    rw [bind_assoc] at hclosed
    exact hclosed

end

end SearchKit
