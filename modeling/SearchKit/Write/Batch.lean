import SearchKit.Session.State
import SearchKit.Value.Sequence

/-!
# Write batches

Records become index operations and identifiers delete operations; all operations of a batch are
sent in one bulk request, as a flat list of headers and documents.

* `WriteOperation`, `WriteBatch`: the operations, with `WriteBatch.native` for the list sent.
* `Record.indexOperation`: the index operation of a record and its document.
* `WriteBatch.addDelete`: a batch with the deletion of a further item.
-/

namespace SearchKit

/-- A write to the index. -/
inductive WriteOperation where
  /-- A document is written. -/
  | index (collection id : String) (document : Entries)
  /-- A document is deleted. -/
  | delete (collection id : String)
  deriving Inhabited, Repr

/-- Writes sent together. -/
structure WriteBatch where
  /-- The collection that the request is addressed to. -/
  collection : Option String := none
  /-- The writes in order. -/
  operations : List WriteOperation := []
  deriving Inhabited, Repr

namespace WriteOperation

/-- A write as structured data. -/
def toValue : WriteOperation → Value
  | index collection id document => .model .indexOperation [
      ("collection", .str collection), ("id", .str id), ("document", .dict document)]
  | delete collection id => .model .deleteOperation [
      ("collection", .str collection), ("id", .str id)]

/-- The write of structured data. -/
def ofValue? : Value → Option WriteOperation
  | .model .indexOperation [(_, .str collection), (_, .str id), (_, .dict document)] =>
    some (index collection id document)
  | .model .deleteOperation [(_, .str collection), (_, .str id)] => some (delete collection id)
  | _ => none

/-- The header of a write. -/
def header (action collection id : String) : Value :=
  single action (Fields.toValue [("_index", .str collection), ("_id", .str id)])

/-- The parts of a write in a bulk request: a header, and for an index operation the document. -/
def native : WriteOperation → List Value
  | index collection id document => [header "index" collection id, .dict document]
  | delete collection id => [header "delete" collection id]

end WriteOperation

namespace WriteBatch

/-- A batch as structured data. -/
def toValue (b : WriteBatch) : Value := .model .writeBatch [
  ("collection", (b.collection.map Value.str).getD .null),
  ("operations", .list (b.operations.map WriteOperation.toValue))]

/-- The batch of structured data. -/
def ofValue? : Value → Option WriteBatch
  | .model .writeBatch [(_, collection), (_, .list operations)] => do
    let operations ← operations.mapM WriteOperation.ofValue?
    match collection with
    | .null => some ⟨none, operations⟩
    | .str c => some ⟨some c, operations⟩
    | _ => none
  | _ => none

/-- The batch has no writes. -/
def isEmpty (b : WriteBatch) : Bool := b.operations.isEmpty

/-- The flat list of headers and documents that is sent. -/
def native (b : WriteBatch) : List Value := b.operations.flatMap WriteOperation.native

/-- The batch with a further write; the first collection named is the one the request goes to. -/
def add (b : WriteBatch) (collection : String) (op : WriteOperation) : WriteBatch :=
  { collection := b.collection <|> some collection, operations := b.operations ++ [op] }

end WriteBatch

/-! ### Indexing -/

namespace Record

/-- The record with the mark of soft deletion in its metadata: 1 when it is deleted, else 0. -/
def pushSoftDelete (r : Record) : Except Fault Record :=
  match r.metadata with
  | .dict es =>
    let mark : Value := .int (if r.trashed then 1 else 0)
    .ok { r with metadata := .dict (Assoc.set (.str softDeletedField) mark es) }
  | _ => .error .wrongType

/-- The record as it is when it is indexed: with the mark of soft deletion where that is on and the
record takes part. -/
def marked (softDelete : Bool) (r : Record) : Except Fault Record :=
  if softDelete && r.softDelete then r.pushSoftDelete else .ok r

/-- The document of a record from the entries of its searchable form with those of its metadata
written over them: over both stands the identifier. -/
def identify (r : Record) (document : Entries) : Except Fault Entries :=
  if r.keyName.hashable then .ok (document.set r.keyName r.key) else .error .wrongType

/-- The index operation of a record and its document. -/
def indexOperation (r : Record) (document : Entries) : Except Fault WriteOperation := do
  let id ← r.key.spell
  let checked ← ModelKind.indexOperation.ofValue (Fields.toValue [
    ("collection", r.collection), ("id", .str id), ("document", .dict document)])
  match WriteOperation.ofValue? checked with
  | some op => return op
  | none => throw .wrongType

/-- A bare key in place of a record. -/
def ofKey (key : Value) : Record where
  key := key
  keyName := .str "id"
  document := Fields.toValue [("id", key)]
  collection := .str "partial"
  metadata := .dict []
  softDelete := false
  trashed := false

end Record

/-- The batch with the index operation of a record and its document. -/
def WriteBatch.addIndex (b : WriteBatch) (r : Record) (document : Entries) :
    Except Fault WriteBatch := do
  match ← r.indexOperation document with
  | .index collection id document => return b.add collection (.index collection id document)
  | .delete .. => return b

/-! ### Deleting -/

/-- What is to be deleted. -/
inductive DeleteItem where
  /-- A record, by its key and collection. -/
  | record (key collection : Value)
  /-- A bare identifier. -/
  | bare (id : Value)
  deriving Inhabited, Repr

/-- The delete operation of an identifier in a collection. -/
def deleteOperation (collection id : Value) : Except Fault WriteOperation := do
  let id ← id.spell
  let checked ← ModelKind.deleteOperation.ofValue (Fields.toValue [
    ("collection", collection), ("id", .str id)])
  match WriteOperation.ofValue? checked with
  | some op => return op
  | none => throw .wrongType

/-- The collection of the batch as a value. -/
def WriteBatch.collectionValue (b : WriteBatch) : Value := (b.collection.map Value.str).getD .null

/-- The batch with the deletion of a further item.  A record names its own collection; a bare
identifier is in the collection of the batch, and needs one. -/
def WriteBatch.addDelete (b : WriteBatch) (item : DeleteItem) : Except Fault WriteBatch := do
  let (id, collection) := match item with
    | .record key collection => (key, collection)
    | .bare id => (id, b.collectionValue)
  if collection.isNull then throw (.badRequest .noCollectionToDelete)
  match ← deleteOperation collection id with
  | .delete collection id => return b.add collection (.delete collection id)
  | .index .. => return b

/-- A batch for deletions in a collection, which may be null. -/
def WriteBatch.startDelete (collection : Value) : Except Fault WriteBatch := do
  let checked ← ModelKind.writeBatch.ofValue (Fields.toValue [("collection", collection)])
  match WriteBatch.ofValue? checked with
  | some b => return b
  | none => throw .wrongType

end SearchKit
