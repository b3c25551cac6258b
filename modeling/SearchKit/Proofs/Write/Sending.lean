import SearchKit.Proofs.Engine.Frame

/-!
# Requests to the backend

What a session has asked of the backend is told by its trace.  Reading records, building batches
and writing logs make no request, so every request of a write stems from the sending of its batch.

* `Session.requests` : the requests of a session so far.
* `Act.Asks` : the requests that a call makes, wherever it starts and however it ends.
* `ApartFromPreparing` : a part of the session that is apart from the preparation of a provider, as
  its requests are (`preparing_requests`).
* `asks_sendBatch` : a batch is sent in one bulk request, and one without writes not at all.
-/

namespace SearchKit

open Act

/-- The request of an entry of the trace. -/
def Event.request? : Event → Option (Connection × Request)
  | .request via r => some (via, r)
  | _ => none

/-- The requests of a session so far, in order. -/
def Session.requests (s : Session) : List (Connection × Request) :=
  s.trace.filterMap Event.request?

/-- The call makes certain requests, wherever it starts and however it ends. -/
def Act.Asks {α : Type} (rs : List (Connection × Request)) (act : Act α) : Prop :=
  ∀ s, (act.outcome s).2.requests = s.requests ++ rs

namespace Act.Asks

variable {α β : Type} {rs : List (Connection × Request)}

theorem of_keeps {act : Act α} (h : Keeps Session.requests act) : Asks [] act :=
  fun s => (h s).trans (List.append_nil _).symm

theorem emit (via : Connection) (r : Request) : Asks [(via, r)] (emit (.request via r)) :=
  fun _ => List.filterMap_append

theorem bind {act : Act α} {next : α → Act β} (hact : Asks rs act)
    (hnext : ∀ a, Keeps Session.requests (next a)) : Asks rs (act >>= next) := by
  intro s
  have hs := hact s
  rw [outcome_bind]
  rcases h : act.outcome s with ⟨fault | a, s'⟩
  · rw [h] at hs; exact hs
  · rw [h] at hs; exact (hnext a s').trans hs

end Act.Asks

/-! ### Calls without a request -/

theorem keeps_requests_emit {e : Event} (h : e.request? = none) :
    Keeps Session.requests (emit e) := by
  refine keeps_emit fun s => ?_
  simp [Session.requests, List.filterMap_append, h]

/-! ### The connection -/

/-- Preparing a provider leaves a part of the session alone: besides being apart from writing, it
tells neither of the providers and their preparation nor of the clients that they build. -/
structure ApartFromPreparing {γ : Type} (view : Session → γ) : Prop
    extends ApartFromWriting view where
  /-- It does not tell of the providers. -/
  providers : ∀ s providers, view { s with providers } = view s
  /-- It does not tell of preparations. -/
  setup : ∀ s context, view { s with trace := s.trace ++ [.setup context] } = view s
  /-- It does not tell of the clients. -/
  clients : ∀ s clients constructions, view { s with clients, constructions } = view s
  /-- It does not tell of constructions. -/
  connect : ∀ s id settings, view { s with trace := s.trace ++ [.connect id settings] } = view s

theorem apart_trace {β : Type} {f : Event → Option β}
    (hlog : ∀ level logger text, f (.log level logger text) = none)
    (hfetch : ∀ name streamed ids, f (.fetch name streamed ids) = none)
    (hsetup : ∀ context, f (.setup context) = none)
    (hconnect : ∀ id settings, f (.connect id settings) = none) :
    ApartFromPreparing fun s => s.trace.filterMap f where
  fetch s name streamed ids := by simp [hfetch]
  sequences _ _ := rfl
  log s level logger text := by simp [hlog]
  records _ _ := rfl
  providers _ _ := rfl
  setup s context := by simp [hsetup]
  clients _ _ _ := rfl
  connect s id settings := by simp [hconnect]

namespace ApartFromPreparing

variable {γ : Type} {view : Session → γ} (h : ApartFromPreparing view)
include h

theorem keeps_endConstruction : Keeps view endConstruction := by
  intro s
  unfold endConstruction settleEnd
  rw [outcome_bind_ok (outcome_get s), outcome_bind_ok (outcome_set s _)]
  split <;> exact h.clients s _ _

theorem keeps_buildClient (settings : Entries) :
    Keeps view (Elasticsearch.buildClient settings) := by
  unfold Elasticsearch.buildClient
  dsimp only
  split
  · split
    · exact fun _ => rfl
    · intro s
      rw [outcome_bind_ok (outcome_get s), outcome_bind_ok (outcome_set s _)]
      have hbuilt : Keeps view (do
          emit (.connect s.clients settings)
          endConstruction
          return .client s.clients : Act Connection) :=
        .bind (keeps_emit fun s => h.connect s _ _) fun _ =>
          .bind h.keeps_endConstruction fun _ => .pure _
      exact (hbuilt _).trans (h.clients s _ _)
  · exact fun _ => rfl

theorem keeps_connection (id : Nat) : Keeps view (Elasticsearch.connection id) := by
  refine .bind (keeps_provider id) fun p => ?_
  split
  · exact .pure _
  · exact .bind (keeps_requireOwn id _) fun _ =>
      .bind (keeps_clientSettings h.toApartFromReading p) fun settings =>
      .bind (h.keeps_buildClient settings) fun _ =>
      .bind (.modify fun s => h.providers s _) fun _ => .pure _

end ApartFromPreparing

/-- Neither reading, writing logs nor preparing a provider makes a request. -/
theorem preparing_requests : ApartFromPreparing Session.requests :=
  apart_trace (fun _ _ _ => rfl) (fun _ _ _ => rfl) (fun _ => rfl) fun _ _ => rfl

theorem apart_requests : ApartFromWriting Session.requests := preparing_requests.toApartFromWriting

theorem keeps_requests_connection (id : Nat) :
    Keeps Session.requests (Elasticsearch.connection id) := preparing_requests.keeps_connection id

/-! ### The sending -/

/-- The value is a way to the backend. -/
def Connection.Usable (via : Connection) : Prop := ∀ v, via ≠ .unusable v

theorem Connection.usable_host : Connection.host.Usable := fun _ h => by cases h

/-- The requests that a batch is sent in. -/
def WriteBatch.requests (via : Connection) (b : WriteBatch) : List (Connection × Request) :=
  match b.isEmpty, b.collection with
  | false, some collection => [(via, .bulk (.str collection) (.list b.native))]
  | _, _ => []

theorem keeps_requests_nextReply : Keeps Session.requests nextReply := by
  intro s
  unfold nextReply
  rw [outcome_bind_ok (outcome_get s)]
  split <;> rfl

theorem asks_send_bulk {via : Connection} (hvia : via.Usable) (index operations : Value) :
    Asks [(via, .bulk index operations)] (send via (.bulk index operations)) := by
  cases via with
  | host => exact .bind (.emit _ _) fun _ => keeps_requests_nextReply
  | client id => exact .bind (.emit _ _) fun _ => keeps_requests_nextReply
  | unusable v => exact absurd rfl (hvia v)

/-- A batch with writes is sent in one bulk request, whatever the backend answers; without writes
none is made. -/
theorem asks_sendBatch {via : Connection} (hvia : via.Usable) (b : WriteBatch) :
    Asks (b.requests via) (sendBatch via b) := by
  have hskipped : Asks [] (do
      log .debug none "Bulk request skipped, no operations"
      return .null : Act Value) := .of_keeps (.bind (keeps_log apart_requests _ _ _) fun _ => .pure _)
  unfold sendBatch WriteBatch.requests
  rcases b.isEmpty with _ | _
  · rcases b.collection with _ | collection
    · exact hskipped
    · refine .bind (asks_send_bulk hvia _ _) fun response =>
        .bind (keeps_failedCount? apart_requests.toApartFromReading response) fun failed => ?_
      dsimp only
      split
      · exact .bind (keeps_log apart_requests _ _ _) fun _ => .pure _
      · exact .pure _
  · exact hskipped

theorem asks_sendBatch_answer {via : Connection} (hvia : via.Usable) (b : WriteBatch) :
    Asks (b.requests via) (do return Response.withNative .null (← sendBatch via b)) :=
  .bind (asks_sendBatch hvia b) fun _ => .pure _

end SearchKit
