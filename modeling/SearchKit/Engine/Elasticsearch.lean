import SearchKit.Engine.Method
import SearchKit.Index.Settings
import SearchKit.Query.Execution
import SearchKit.Result.Records
import SearchKit.Value.Arithmetic
import SearchKit.Write.Request

/-!
# The provider for Elasticsearch

The operations of the search engine over a connection to Elasticsearch.  The provider is given its
connection or builds a client when it first needs one; after closing it builds a new one.

* `Elasticsearch.connection`: the connection it holds, built if there is none.
* `Elasticsearch.collectionName`: the collection that an operation addresses.
* `Elasticsearch.methods`: its methods by name.
-/

namespace SearchKit.Elasticsearch

/-- The greatest count of hits of a search that names none. -/
def defaultSearchSize : Value := .int 10000

/-- The size of a page where none is named. -/
def defaultPageSize : Value := .int 10

/-- The value if it counts as present, else another one. -/
def orElse (v w : Value) : Value := if v.truthy then v else w

/-! ### The connection -/

/-- The settings that a client may be built with, beside its native ones. -/
def clientSettingNames : List String := [
  "hosts", "cloud_id", "api_key", "basic_auth", "bearer_auth", "headers", "verify_certs",
  "ca_certs", "request_timeout"]

/-- Credentials given as a list are handed on as a tuple. -/
def asCredentials : Value → Value
  | .list xs | .collection xs => .tuple xs
  | v => v

/-- A setting of the provider as a client takes it. -/
def clientSetting (p : Provider) (name : String) : Value :=
  let v := p.settings.getD name
  if name = "api_key" ∨ name = "basic_auth" then asCredentials v else v

/-- The settings of the client of a provider: those that are given, and over them the native ones.
Some address is needed. -/
def clientSettings (p : Provider) : Act Entries := do
  if (p.settings.getD "hosts").isNull && (p.settings.getD "cloud_id").isNull then
    throw (.badRequest .noHosts)
  let given := (clientSettingNames.map fun name => (name, clientSetting p name)).filter
    fun setting => !setting.2.isNull
  let es := Entries.ofFields given
  match p.settings.getD "nparams" with
  | .null => return es
  | native => writtenOver es native

/-- A new client with settings, which are keywords. -/
def buildClient (settings : Entries) : Act Connection := do
  unless settings.toFields?.isSome do throw .wrongType
  if (settings.field? receiverName).isSome then throw .wrongType
  let s ← get
  set { s with clients := s.clients + 1 }
  emit (.connect s.clients settings)
  endConstruction
  return .client s.clients

/-- The connection of a provider.  Without an open one a client is built and held. -/
def connection (id : Nat) : Act Connection := do
  let p ← provider id
  if p.ready then return p.connection.getD (.unusable .null)
  else
    requireOwn id "_get_client_params"
    let via ← buildClient (← clientSettings p)
    putProvider id { p with connection := some via, ready := true }
    return via

/-- The connection of a provider closed and given up.  Without an open one nothing happens. -/
def close (id : Nat) : Act Value := do
  let p ← provider id
  match p.ready, p.connection with
  | true, some via =>
    let _ ← send via .close
    putProvider id { p with connection := none, ready := false }
  | _, _ => pure ()
  return Response.toValue { result := .null }

/-! ### Collections and sources -/

/-- The collection of a source or a record. -/
def collectionOf (v : Value) : Act Value := do
  match v with
  | .keyed .. => return .str "partial"
  | v =>
    let s ← get
    match sourceOf? s v, recordOf? s v with
    | some (_, source), _ => return source.collection
    | none, some (_, r) => return r.collection
    | none, none => throw .noPart

/-- The collection of a component as a provider sees it. -/
def ownerCollection (p : Provider) : Act Value := do
  let s ← get
  match p.owner.bind fun id => s.components[id]?, p.settings.get? "__component__" with
  | some c, _ => return c.settings.getD "collection"
  | none, some (.model _ fields) => return Fields.getD "collection" fields
  | none, _ => return .null

/-- The collection where neither the call nor a source names one: the provider's own index, else
the collection of the component bound to it. -/
def defaultCollection (id : Nat) : Act Value := do
  requireOwn id "_get_default_collection"
  let p ← provider id
  return orElse (p.settings.getD "index") (← ownerCollection p)

/-- The collection that an operation addresses: the named one, else that of the source, else the
default.  Empty names count as missing. -/
def collectionName (id : Nat) (named source : Value) : Act Value := do
  requireOwn id "_get_collection_name"
  let name ←
    if named.truthy then pure named
    else do
      let own ← if source.isNull then pure .null else collectionOf source
      if own.truthy then pure own else defaultCollection id
  if name.truthy then return name else throw (.badRequest .noCollection)

/-- The names of the text fields of a source. -/
def textFieldsOf (v : Value) : Act Value := do
  if v.isNull then return .list []
  let (_, source) ← theSource v
  return source.fields

/-- The predicate set of a value that has to be one. -/
def predicates (v : Value) : Act PredicateSet :=
  match PredicateSet.ofValue? v with
  | some p => return p
  | none => throw .noPart

/-- The source of the records: the one of the call, else the one of the predicate set. -/
def chosenSource (id : Nat) (given source : Value) : Act Value := do
  requireOwn id "_get_source"
  let source ←
    if source.isNull && !given.isNull then do pure (← predicates given).source else pure source
  if source.isNull then throw (.badRequest .noSource) else return source

/-! ### Searching -/

/-- One search of a predicate set with the defaults of an operation. -/
def runSearch (id : Nat) (given defaults : Value) : Act Value := do
  requireOwn id "_perform_search"
  let p ← predicates given
  let index ← collectionName id p.index p.source
  let fields ← textFieldsOf p.source
  let via ← connection id
  let query ← p.compile fields
  let options ← p.requestOptions defaults
  executeSearch via index p query options

/-- The answer of a search: with a callback its value alone, else the section of the hits. -/
def searchAnswer (given response : Value) : Act Value := do
  let p ← predicates given
  if p.callback.isNull then return Response.withNative (hitsSection response) response
  else return Response.toValue { result := response }

/-- The hits of a predicate set. -/
def search (id : Nat) (given : Value) : Act Value := do
  let p ← predicates given
  let defaults := Fields.toValue [
    ("_source", .bool true), ("size", orElse p.limit defaultSearchSize), ("from", p.offset)]
  searchAnswer given (← runSearch id given defaults)

/-- The window of a page, its empty entries left out: the page size, and the count of hits on the
pages before it. -/
def pageWindow (perPage page : Value) : Except Fault Entries := do
  let size := orElse perPage defaultPageSize
  let start ← (← page.minus (.int 1)).times size
  return (Entries.ofFields [("_source", .bool true), ("size", size), ("from", start)]).filter
    fun e => e.2.truthy

/-- One page of the hits of a predicate set. -/
def paginate (id : Nat) (given perPage page : Value) : Act Value := do
  let window ← pageWindow perPage page
  searchAnswer given (← runSearch id given (.dict window))

/-- The distinct values of a field.  An empty name of a field is refused on any structured data, as
it is first put in the place of the one there. -/
def distinct (id : Nat) (given field : Value) : Act Value := do
  if given.isModel && !field.isNull && !field.truthy then throw (.badRequest .noDistinctField)
  let p ← predicates given
  let p := if field.isNull then p else { p with distinctField := field }
  unless p.distinctField.truthy do throw (.badRequest .noDistinctField)
  let response ← runSearch id p.toValue (.dict [])
  return Response.withNative (.list (← bucketKeys response p.distinctField)) response

/-- The count of the hits of a predicate set. -/
def count (id : Nat) (given : Value) : Act Value := do
  requireOwn id "search"
  match Response.ofValue? (← search id given) with
  | some r => return Response.toValue { result := totalCount r.result, native := r.native }
  | none => throw .noPart

/-! ### Writing -/

/-- Records indexed in one bulk request. -/
def update (id : Nat) (records : Value) : Act Value := do
  let via ← connection id
  let softDelete := ((← provider id).settings.getD "soft_delete").truthy
  let b ← indexingBatch softDelete records
  return Response.withNative .null (← sendBatch via b)

/-- Records and bare identifiers deleted in one bulk request. -/
def delete (id : Nat) (items collection : Value) : Act Value := do
  let via ← connection id
  let collection ← if collection.truthy then pure collection else defaultCollection id
  let b ← deletionBatch items collection
  return Response.withNative .null (← sendBatch via b)

/-- The query that every document matches. -/
def matchAll : Value := single "match_all" (.dict [])

/-- Every document of a collection deleted. -/
def flush (id : Nat) (source collection : Value) : Act Value := do
  let index ← collectionName id collection source
  return Response.withNative .null (← send (← connection id) (.deleteByQuery index matchAll))

/-! ### Indices -/

/-- The configured settings of the indices. -/
def indexSettings (id : Nat) : Act IndexSettings := do
  IndexSettings.ofConfig ((← provider id).settings.getD "indices")

/-- An index created with its settings and further ones. -/
def createIndex (id : Nat) (name options : Value) : Act Value := do
  let via ← connection id
  let body ← (← indexSettings id).body name options
  let response ← send via (.createIndex name body)
  return Response.withNative response response

/-- An index deleted. -/
def deleteIndex (id : Nat) (name : Value) : Act Value := do
  let via ← connection id
  let _ ← indexSettings id
  let response ← send via (.deleteIndex name)
  return Response.withNative response response

/-! ### Methods -/

/-- A parameter that may be null and is so by default. -/
def optionalParameter (name : String) (type : TypeExpr) : Parameter :=
  { name, type := .optional type, fallback := some .null }

/-- The parameter of a predicate set. -/
def predicatesParameter : Parameter := { name := "predicates", type := .model .predicateSet }

/-- The parameter of a result, null by default. -/
def resultsParameter : Parameter := { name := "results", fallback := some .null }

/-- The parameter of a record source, null by default. -/
def sourceParameter : Parameter := optionalParameter "source" (.handle "RecordSource")

/-- An operation: it takes further keywords and makes no use of them. -/
def operation (parameters : List Parameter) (body : Nat → Arguments → Act Value) : Method where
  signature := { parameters, further := true }
  body := body

/-- The operations by name. -/
def operations : List (String × Method) := [
  ("update", operation [{ name := "records", fallback := some (.tuple []) }]
    fun id a => update id (a.get "records")),
  ("delete", operation [
      { name := "records", fallback := some (.tuple []) }, optionalParameter "collection" .str]
    fun id a => delete id (a.get "records") (a.get "collection")),
  ("search", operation [predicatesParameter] fun id a => search id (a.get "predicates")),
  ("paginate", operation [
      predicatesParameter, { name := "per_page", type := .int, fallback := some defaultPageSize },
      { name := "page", type := .int, fallback := some (.int 1) }]
    fun id a => paginate id (a.get "predicates") (a.get "per_page") (a.get "page")),
  ("distinct", operation [predicatesParameter, optionalParameter "field" .str]
    fun id a => distinct id (a.get "predicates") (a.get "field")),
  ("count", operation [predicatesParameter] fun id a => count id (a.get "predicates")),
  ("map_ids", operation [resultsParameter] fun _ a => do
    return Response.toValue { result := .list (← hitIds (a.get "results")) }),
  ("map", operation [predicatesParameter, resultsParameter, sourceParameter] fun id a => do
    let source ← chosenSource id (a.get "predicates") (a.get "source")
    return Response.toValue { result := ← recordsBehind (a.get "results") source }),
  ("lazy_map", operation [predicatesParameter, resultsParameter, sourceParameter] fun id a => do
    let source ← chosenSource id (a.get "predicates") (a.get "source")
    return Response.toValue { result := ← recordsLazily (a.get "results") source }),
  ("get_total_count", operation [resultsParameter] fun _ a =>
    return Response.toValue { result := totalCount (a.get "results") }),
  ("flush", operation [sourceParameter, optionalParameter "collection" .str]
    fun id a => flush id (a.get "source") (a.get "collection")),
  ("create_index", operation [
      { name := "name", type := .str }, optionalParameter "options" (.dictOf .str .any)]
    fun id a => createIndex id (a.get "name") (a.get "options")),
  ("delete_index", operation [{ name := "name", type := .str }]
    fun id a => deleteIndex id (a.get "name")),
  ("close", operation [] fun id _ => close id)]

/-- What the operations are made of, under names of their own. -/
def parts : List (String × Method) := [
  ("_get_client_params", { body := fun id _ => do
    return .dict (← clientSettings (← provider id)) }),
  ("_get_collection_name", {
    signature.parameters := [
      { name := "collection_name", type := .optional .str }, sourceParameter]
    body := fun id a => collectionName id (a.get "collection_name") (a.get "source") }),
  ("_get_default_collection", { body := fun id _ => defaultCollection id }),
  ("_get_source", {
    signature.parameters := [
      { name := "predicates", type := .optional (.model .predicateSet) },
      { name := "source", type := .optional (.handle "RecordSource") }]
    body := fun id a => chosenSource id (a.get "predicates") (a.get "source") }),
  ("_perform_search", {
    signature.parameters := [predicatesParameter, { name := "defaults", type := .dictOf .str .any }]
    body := fun id a => runSearch id (a.get "predicates") (a.get "defaults") })]

/-- The methods by name. -/
def methods : List (String × Method) := operations ++ parts

end SearchKit.Elasticsearch
