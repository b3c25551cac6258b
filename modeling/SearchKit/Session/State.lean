import SearchKit.Query.Compiled
import SearchKit.Result.Ranking

/-!
# The state of a session

Everything that a call can read or change: the application's records, sources and callbacks, the
answers that the search backend has ready, the open sequences, the providers and the components.
What reaches the outside is written into a trace.

* `Session`: the state, and `Event`: an entry of the trace.
* `Act`: a call, which changes the session and ends in a value or a fault.  A fault keeps the
  changes made before it.
-/

namespace SearchKit

/-! ### Objects of the application -/

/-- A record of the application. -/
structure Record where
  /-- The identifier. -/
  key : Value
  /-- The name of the identifier in the indexed document. -/
  keyName : Value
  /-- The searchable form; an empty one keeps the record out of the index. -/
  document : Value
  /-- The collection that the record is indexed in. -/
  collection : Value
  /-- Further fields of the indexed document. -/
  metadata : Value
  /-- The record marks soft deletion in its metadata. -/
  softDelete : Bool
  /-- The record is softly deleted. -/
  trashed : Bool
  deriving Inhabited, Repr

/-- A failure of an object of the application. -/
structure HostFailure where
  /-- The kind of the failure. -/
  kind : String
  /-- Its wording. -/
  message : String
  deriving Inhabited, Repr, DecidableEq

/-- A store of records. -/
structure Source where
  /-- The records, whatever identifiers are asked for. -/
  records : List Value
  /-- The collection that the records are indexed in. -/
  collection : Value
  /-- The names of the text fields. -/
  fields : Value
  /-- The failure of every fetch. -/
  failure : Option HostFailure
  deriving Inhabited, Repr

/-- A search callback of the application. -/
inductive Callback where
  /-- It answers with a value. -/
  | answers (v : Value)
  /-- It searches an index with the options given to it. -/
  | forwards (index : Value)
  /-- It fails. -/
  | fails (failure : HostFailure)
  deriving Inhabited, Repr

/-- An answer of the search backend. -/
inductive Reply where
  | answer (v : Value)
  | failure (failure : HostFailure)
  deriving Inhabited, Repr

/-- A sequence that can be read once. -/
inductive Sequence where
  /-- The items still to come. -/
  | items (rest : List Value)
  /-- The records of hits, which are fetched when the first one is wanted. -/
  | deferred (source : Value) (ids : List String)
  deriving Inhabited, Repr

/-! ### What reaches the outside -/

/-- A way to the search backend. -/
inductive Connection where
  /-- The transport of the application. -/
  | host
  /-- A client that a provider has built, by its number. -/
  | client (id : Nat)
  /-- A value that was given for a transport and is none. -/
  | unusable (v : Value)
  deriving Inhabited, Repr

/-- A request to the search backend. -/
inductive Request where
  | bulk (index operations : Value)
  | search (index body : Value)
  | deleteByQuery (index query : Value)
  | createIndex (index body : Value)
  | deleteIndex (index : Value)
  | close
  deriving Inhabited, Repr

/-- The level of a log entry. -/
inductive LogLevel where
  | debug
  | warning
  deriving DecidableEq, Repr

/-- What reaches the outside during a call. -/
inductive Event where
  /-- An entry of a log. -/
  | log (level : LogLevel) (logger text : String)
  /-- A request to the backend. -/
  | request (via : Connection) (request : Request)
  /-- The building of a client. -/
  | connect (id : Nat) (settings : Entries)
  /-- A fetch of records, at once or as a stream. -/
  | fetch (source : String) (streamed : Bool) (ids : List String)
  /-- A search callback, with the connection it is handed. -/
  | callback (via : Connection) (name : String) (query : Value) (options : Value)
  /-- The preparation of a provider for a call. -/
  | setup (context : Value)
  deriving Inhabited, Repr

/-! ### Providers and components -/

/-- The classes of providers. -/
inductive ProviderKind where
  /-- A provider without operations. -/
  | plain
  /-- The provider for Elasticsearch. -/
  | elasticsearch
  /-- A small provider for trying the routing. -/
  | sample
  deriving DecidableEq, Repr, Inhabited

/-- The classes of components. -/
inductive ComponentKind where
  /-- A component without operations. -/
  | plain
  /-- The search engine. -/
  | searchEngine
  /-- A small component for trying the routing. -/
  | sample
  deriving DecidableEq, Repr, Inhabited

/-- A provider: it implements the operations of a component. -/
structure Provider where
  /-- Its class. -/
  kind : ProviderKind
  /-- Its handle in a manifest. -/
  handle : Value := .null
  /-- Its type in a manifest. -/
  type : Value := .null
  /-- Its configuration. -/
  settings : Fields := []
  /-- The connection it holds. -/
  connection : Option Connection := none
  /-- It counts its connection as open. -/
  ready : Bool := false
  /-- The component that was bound to it last. -/
  owner : Option Nat := none
  deriving Inhabited, Repr

/-- A component: it offers operations and routes them to its provider. -/
structure Component where
  /-- Its class. -/
  kind : ComponentKind
  /-- Its handle in a manifest. -/
  handle : Value := .null
  /-- Its type in a manifest. -/
  type : Value := .null
  /-- Responses keep the raw answer of the backend. -/
  native : Value := .bool false
  /-- Operations answer with the result in place of the response. -/
  unpack : Value := .bool false
  /-- Its configuration. -/
  settings : Fields := []
  /-- The provider it is bound to. -/
  provider : Option Nat := none
  deriving Inhabited, Repr

/-! ### Sessions -/

/-- The state of a session. -/
structure Session where
  /-- The records, by place. -/
  records : List Record := []
  /-- The record sources by name. -/
  sources : List (String × Source) := []
  /-- The search callbacks by name. -/
  callbacks : List (String × Callback) := []
  /-- The answers of the backend still to come. -/
  replies : List Reply := []
  /-- The open sequences, by place. -/
  sequences : List Sequence := []
  /-- The count of clients asked for so far. -/
  clients : Nat := 0
  /-- How the coming constructions of clients end; those beyond the list go well. -/
  constructions : List (Option HostFailure) := []
  /-- How the coming closings of clients end; those beyond the list go well. -/
  closings : List (Option HostFailure) := []
  /-- The providers, by place. -/
  providers : List Provider := []
  /-- The components, by place. -/
  components : List Component := []
  /-- What has reached the outside, in order. -/
  trace : List Event := []
  deriving Inhabited, Repr

/-- A call: it changes the session and ends in a value or a fault.  The changes before a fault
stay. -/
abbrev Act (α : Type) := ExceptT Fault (StateM Session) α

namespace Act

/-- The outcome of a call and the session after it. -/
def outcome {α : Type} (act : Act α) (s : Session) : Except Fault α × Session := act.run s

/-- A call that ends in a given outcome at once. -/
def ofExcept {α : Type} (e : Except Fault α) : Act α := fun s => (e, s)

end Act

instance : MonadLift (Except Fault) (ExceptT Fault (StateM Session)) := ⟨Act.ofExcept⟩

end SearchKit
