import SearchKit.Catalog.Entry
import SearchKit.Engine.Method

/-!
# Making providers and components

A provider or a component is made by its class from named values, and can be made anew while it is
in use: what is not named again takes its default, and a provider keeps what else it was given.

* `ProviderKind.signature`, `ComponentKind.signature`: the parameters of the classes.
* `Provider.assign`: a provider with a further attribute.
* `initializeProvider`, `newProvider`: a provider made from its arguments.
* `initializeComponent`, `addUnbound`: a component made from its arguments, not bound by them.
-/

namespace SearchKit

/-! ### Providers -/

/-- The settings of a provider for Elasticsearch. -/
def elasticsearchParameters : List Parameter :=
  let either (names : List TypeExpr) : TypeExpr := .alternatives names
  let optional (name : String) (type : TypeExpr) : Parameter :=
    { name, type := .optional type, fallback := some .null }
  [ { name := "hosts", fallback := some .null
      type := either [.str, .listOf .str, .dictOf .str (either [.str, .int]), .none] },
    optional "cloud_id" .str,
    { name := "api_key", type := either [.str, .listOf .str, .none], fallback := some .null },
    { name := "basic_auth", type := either [.str, .listOf .str, .none], fallback := some .null },
    optional "bearer_auth" .str,
    optional "headers" (.dictOf .str .str),
    optional "verify_certs" .bool,
    optional "ca_certs" .str,
    optional "request_timeout" .float,
    optional "index" .str,
    { name := "soft_delete", type := .bool, fallback := some (.bool false) },
    optional "indices" (.dictOf .str .any),
    { name := "nparams", type := .dictOf .str .any, fallback := some (.dict []) },
    optional "transport" (.handle "Transport")]

/-- The parameters of the classes of providers. -/
def ProviderKind.signature : ProviderKind → Signature
  | .elasticsearch => { parameters := elasticsearchParameters, further := true }
  | .plain | .sample => { further := true }

/-- A value given for a transport as a connection. -/
def Connection.ofValue? : Value → Option Connection
  | .null => none
  | v => some (.unusable v)

/-- The attribute of a provider that holds its component. -/
def ownerName : String := "__component__"

/-- A provider with an attribute.  Its class and its place in memory cannot be assigned, nor the
connection that it builds, and its attributes as a whole only to a map. -/
def Provider.assign (p : Provider) (name : String) (v : Value) : Except Fault Provider :=
  match p.kind, name, v with
  | .elasticsearch, "transport", _ => .error .noPart
  | .elasticsearch, "_transport", v => .ok { p with connection := Connection.ofValue? v }
  | .elasticsearch, "_init", v => .ok { p with ready := v.truthy }
  | _, "__handle__", v => .ok { p with handle := v }
  | _, "__type__", v => .ok { p with type := v }
  | _, "__class__", _ => .error .wrongType
  | _, "__weakref__", _ => .error .noPart
  | _, "__dict__", .dict es => .ok { kind := p.kind, settings := (Entries.toFields? es).getD [] }
  | _, "__dict__", _ => .error .wrongType
  | _, "__component__", v => .ok { p with owner := none, settings := p.settings.set ownerName v }
  | _, name, v => .ok { p with settings := p.settings.set name v }

/-- The attribute of a provider assigned. -/
def assignTo (id : Nat) (name : String) (v : Value) : Act Unit := do
  putProvider id (← (← provider id).assign name v)

/-- The provider at a place made from its arguments: its handle and its type, the further keywords
one after the other, and at last what its class has parameters for. -/
def initializeProvider (id : Nat) (a : Arguments) : Act Unit := do
  let p ← provider id
  putProvider id { p with
    handle := a.further.getD "__handle__"
    type := (a.further.get? "__type__").getD (.str p.kind.moduleName) }
  ((a.further.erase "__handle__").erase "__type__").forM fun f => assignTo id f.1 f.2
  match p.kind with
  | .elasticsearch => do
    let p ← provider id
    let transport := Connection.ofValue? (a.get "transport")
    putProvider id { p with
      settings := p.settings.update (a.named.erase "transport")
      connection := transport
      ready := transport.isSome }
  | .plain | .sample => pure ()

/-- A new provider of a class from named values. -/
def newProvider (kind : ProviderKind) (keywords : Fields) : Act Nat := do
  let a ← kind.signature.bind [] keywords
  let id ← addProvider { kind }
  initializeProvider id a
  return id

/-! ### Components -/

/-- The parameters of the classes of components. -/
def ComponentKind.signature : ComponentKind → Signature
  | .plain => { further := true }
  | .searchEngine => {
      parameters := [{ name := "collection", type := .optional .str, fallback := some .null }]
      further := true }
  | .sample => {
      parameters := [{ name := "base", type := .int, fallback := some (.int 0) }]
      further := true }

/-- A component of a class from its arguments, not bound. -/
def ComponentKind.make (kind : ComponentKind) (a : Arguments) : Component where
  kind := kind
  handle := a.further.getD "__handle__"
  type := (a.further.get? "__type__").getD (.str kind.moduleName)
  native := (a.further.get? "__native__").getD (.bool false)
  unpack := (a.further.get? "__unpack__").getD (.bool false)
  settings := a.named

/-- The component at a place made anew from its arguments; its provider stays. -/
def initializeComponent (id : Nat) (a : Arguments) : Act Unit := do
  let c ← component id
  putComponent id { c.kind.make a with provider := c.provider }

/-- The keyword by which a component is given its provider. -/
def providerKeyword : String := "__provider__"

/-- A new component of a class from named values, not bound yet, and the provider it asks for. -/
def addUnbound (kind : ComponentKind) (keywords : Fields) : Act (Nat × Option Value) := do
  let a ← kind.signature.bind [] keywords
  return (← addComponent (kind.make a), a.further.get? providerKeyword)

/-- A component bound to a provider. -/
def bindTo (componentId providerId : Nat) : Act Unit := do
  let p ← provider providerId
  putProvider providerId { p with
    owner := some componentId, settings := p.settings.erase ownerName }
  let c ← component componentId
  putComponent componentId { c with provider := some providerId }

end SearchKit
