import SearchKit.Write.Batch
import SearchKit.Session.Sequence

/-!
# Bulk requests

Building batches from the records of a session and sending them.

* `indexingBatch`, `deletionBatch`: the batch of a sequence of records or identifiers.
* `sendBatch`: one bulk request for a batch with writes, none for an empty one.
-/

namespace SearchKit

/-- The record of a value that is to be indexed; a bare key stands for a record of its own. -/
def indexable (v : Value) : Act Record := do
  match v with
  | .keyed _ key => return .ofKey key
  | v => match recordOf? (← get) v with
    | some (_, r) => return r
    | none => throw .noPart

/-- A record of the session changed. -/
def putRecord (v : Value) (r : Record) : Act Unit :=
  match v with
  | .record id _ => modify fun s => { s with records := s.records.set id r }
  | _ => return ()

/-- The document of a record, none when its searchable form is empty: the searchable form, over it
the metadata, over both the identifier. -/
def Record.indexDocument? (r : Record) : Act (Option Entries) := do
  if !r.document.truthy then return none
  let document ← entriesIn r.document
  let document ← if r.metadata.truthy then writtenOver document r.metadata else pure document
  return some (← r.identify document)

/-- The batch with a further record, its mark of soft deletion kept in the session. -/
def addRecord (softDelete : Bool) (b : WriteBatch) (v : Value) : Act WriteBatch := do
  let r ← (← indexable v).marked softDelete
  putRecord v r
  match ← r.indexDocument? with
  | none => return b
  | some document => return ← b.addIndex r document

/-- The batch that indexes records. -/
def indexingBatch (softDelete : Bool) (records : Value) : Act WriteBatch := do
  foldItems records {} (addRecord softDelete)

/-- What a value is when it is to be deleted. -/
def deleteItem (s : Session) (v : Value) : DeleteItem :=
  match recordOf? s v with
  | some (_, r) => .record r.key r.collection
  | none => .bare v

/-- The batch that deletes records and bare identifiers. -/
def deletionBatch (items collection : Value) : Act WriteBatch := do
  let b ← WriteBatch.startDelete collection
  foldItems items b fun b v => do return ← b.addDelete (deleteItem (← get) v)

/-- The failed results of one item of a bulk response. -/
def failedResults (item : Value) : Except Fault (List Value) :=
  match item with
  | .dict results => do
    let failed ← results.mapM fun e => match e.2 with
      | .dict es => .ok (((Assoc.field? "error" es).getD .null).truthy)
      | _ => .error .noPart
    return (failed.filter id).map fun _ => item
  | _ => .error .noPart

/-- The count of failed results that a bulk response tells, if it tells any errors. -/
def failedCount? (response : Value) : Act (Option Nat) := do
  match response with
  | .dict es =>
    if ((Assoc.field? "errors" es).getD .null).truthy then
      let failed ← mapItems ((Assoc.field? "items" es).getD (.list []))
        fun item => return ← failedResults item
      return some failed.flatten.length
    else return none
  | _ => return none

/-- One bulk request for a batch, with the response of the backend; a batch without writes makes
none and gives null. -/
def sendBatch (via : Connection) (b : WriteBatch) : Act Value := do
  match b.isEmpty, b.collection with
  | false, some collection => do
    let response ← send via (.bulk (.str collection) (.list b.native))
    match ← failedCount? response with
    | some count =>
      log .warning none ("Bulk request on " ++ collection ++ " had " ++ toString count ++
        " failed items")
    | none => pure ()
    return response
  | _, _ => do
    log .debug none "Bulk request skipped, no operations"
    return .null

end SearchKit
