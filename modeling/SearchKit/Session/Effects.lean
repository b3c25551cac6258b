import SearchKit.Session.State

/-!
# Effects of a session

The steps by which a call reads and changes a session.

* `send`: a request to the backend, which gives the next of its answers.
* `fetch`: records from a source.
* `rankRecords`: fetched records in the order of the identifiers of hits.
-/

namespace SearchKit

/-- An entry of the trace. -/
def emit (e : Event) : Act Unit := modify fun s => { s with trace := s.trace ++ [e] }

/-- The name of the root log. -/
def logRoot : String := "searchbridge"

/-- The name of a log below the root. -/
def loggerName : Option String → String
  | none => logRoot
  | some name => logRoot ++ "." ++ name

/-- An entry of a log. -/
def log (level : LogLevel) (name : Option String) (text : String) : Act Unit :=
  emit (.log level (loggerName name) text)

/-- The failure of an object of the application as a fault. -/
def HostFailure.fault (f : HostFailure) : Fault := .host f.kind f.message

/-! ### The backend -/

/-- The next answer of the backend, an empty map when none is left. -/
def nextReply : Act Value := do
  let s ← get
  match s.replies with
  | [] => return .dict []
  | .answer v :: rest => set { s with replies := rest }; return v
  | .failure f :: rest => set { s with replies := rest }; throw f.fault

/-- The end of a construction or a closing, a failure if it is one. -/
def settleEnd : Option HostFailure → Act Unit
  | some f => throw f.fault
  | none => return ()

/-- The end of the next construction of a client. -/
def endConstruction : Act Unit := do
  let s ← get
  set { s with constructions := s.constructions.tail }
  settleEnd s.constructions.head?.join

/-- The end of the next closing of a client. -/
def endClosing : Act Unit := do
  let s ← get
  set { s with closings := s.closings.tail }
  settleEnd s.closings.head?.join

/-- The body of a request can be spread into keywords beside the index. -/
def spreadable : Value → Bool
  | .dict es => es.all fun e => match e.1 with
    | .str name => name != "index"
    | _ => false
  | _ => false

/-- A client takes the request: the body of a search and of a creation has to be spreadable. -/
def Request.fitsClient : Request → Bool
  | .search _ body | .createIndex _ body => spreadable body
  | _ => true

/-- A request over a connection, with the answer of the backend.  A client closes without one. -/
def send (via : Connection) (r : Request) : Act Value := do
  match via with
  | .unusable _ => throw .noPart
  | .host =>
    emit (.request via r)
    nextReply
  | .client _ =>
    unless r.fitsClient do throw .wrongType
    emit (.request via r)
    match r with
    | .close => endClosing; return .null
    | _ => nextReply

/-! ### Objects of the application -/

/-- The record of a value; other values are no records. -/
def recordOf? (s : Session) : Value → Option (Nat × Record)
  | .record id _ => s.records[id]?.map fun r => (id, r)
  | _ => none

/-- The source of a value. -/
def sourceOf? (s : Session) : Value → Option (String × Source)
  | .source name => (s.sources.lookup name).map fun source => (name, source)
  | _ => none

/-- The source of a value that has to be one. -/
def theSource (v : Value) : Act (String × Source) := do
  match sourceOf? (← get) v with
  | some found => return found
  | none => throw .noPart

/-- The records of a source.  The fetch is seen outside before it can fail. -/
def fetch (source : Value) (streamed : Bool) (ids : List String) : Act (List Value) := do
  let (name, source) ← theSource source
  emit (.fetch name streamed ids)
  match source.failure with
  | some f => throw f.fault
  | none => return source.records

/-- The key of a record. -/
def keyOf (v : Value) : Act Value := do
  match v with
  | .keyed _ key => return key
  | v => match recordOf? (← get) v with
    | some (_, r) => return r.key
    | none => throw .noPart

/-- The records of a fetch in the rank order of identifiers. -/
def rankRecords (ids : List String) (records : List Value) : Act (List Value) := do
  let keyed ← records.mapM fun r => do return (← (← keyOf r).spell, r)
  return ranked ids keyed

end SearchKit
