import SearchKit.Catalog.Path
import SearchKit.Engine.Construction
import SearchKit.Engine.Elasticsearch
import SearchKit.Text.FilePath
import SearchKit.Value.Weight

/-!
# Binding components to providers

A component can be given its provider by a type, which is a path of a class, perhaps with a
configuration.  A path may lead to anything that a module knows; what it makes is bound when it is
a provider, or stands for one in turn.

* `Built`: what a path makes of a configuration, and `plainObject` for what is neither a component
  nor a provider.
* `bindComponent`, `newComponent`: a component bound to the provider it is given.
* `providerAt`, `componentAt`: what the paths of a manifest make.
-/

namespace SearchKit

/-- What a path makes of a configuration. -/
inductive Built where
  /-- A component. -/
  | component (id : Nat)
  /-- A provider. -/
  | provider (id : Nat)
  /-- A value. -/
  | value (v : Value)
  /-- An object of which nothing is known. -/
  | object
  deriving Inhabited

/-! ### Other objects -/

/-- The name that a manifest file has unless another one is given. -/
def manifestFileName : String := "searchbridge.yaml"

/-- The parameters of the loader of a manifest. -/
def loaderParameters : List Parameter := [
  { name := "path", type := .str, fallback := some (.str ".") },
  { name := "manifest", type := .str, fallback := some (.str manifestFileName) }]

/-- The parameters of what an entry stands for. -/
def Entry.signature : Entry → Signature
  | .component kind => kind.signature
  | .provider kind => kind.signature
  | .plain _ parameters => { parameters }
  | .loader => { parameters := loaderParameters }
  | .direction => { parameters := [{ name := "value" }] }
  | .function (.log _) => {
      parameters := [{ name := "message" }, { name := "name", fallback := some .null }] }
  | .function .logger => { parameters := [{ name := "name", fallback := some .null }] }
  | _ => { further := true }

/-- The direction that an argument chooses, by the name it goes by among the choices. -/
def chosenDirection : Value → Except Fault Value
  | .str "asc" => .ok (.str "SortDirection.ASC")
  | .str "desc" => .ok (.str "SortDirection.DESC")
  | _ => .error (.misuse .badValue)

/-- The loading of a manifest: there is none but the one that is being loaded. -/
def loadManifest (a : Arguments) : Except Fault Built :=
  match a.get "path", a.get "manifest" with
  | .str path, .str manifest => .error (.load (.noManifest (joinPath path manifest)))
  | _, _ => .error .wrongType

/-- The call of a function by keywords. -/
def callFunction (f : CatalogFunction) (keywords : Fields) : Act Built := do
  match f with
  | .log level =>
    let a ← (Entry.function f).signature.bind [] keywords
    let name := a.get "name"
    let logger ← if name.isNull then pure none else some <$> name.spell
    log level logger (a.get "message").text
    return .value .null
  | .logger =>
    let _ ← (Entry.function f).signature.bind [] keywords
    return .object
  | .operation => return .object
  | .runtimeCheckable => throw .wrongType

/-- What an entry that is no class of components or providers makes of keywords. -/
def plainObject (e : Entry) (keywords : Fields) : Act Built := do
  match e with
  | .model kind => return .value (← model kind (Fields.toValue keywords))
  | .anyResponse => return .value (← model .response (Fields.toValue keywords))
  | .dataModel => return .value (.str "")
  | .modelRoot => throw (.misuse .noKind)
  | .plain .. => let _ ← e.signature.bind [] keywords; return .object
  | .failure _ => if keywords.isEmpty then return .object else throw .wrongType
  | .direction =>
    let a ← e.signature.bind [] keywords
    return .value (← chosenDirection (a.get "value"))
  | .loader => return ← loadManifest (← e.signature.bind [] keywords)
  | .client => let _ ← Elasticsearch.buildClient (Entries.ofFields keywords); return .object
  | .map _ => return .value (Fields.toValue keywords)
  | .function f => callFunction f keywords
  | .interface _ | .module _ | .constant | .component _ | .provider _ => throw .wrongType

/-! ### Types of providers -/

/-- The package of a module: its name up to the last point. -/
def packageOf (moduleName : String) : String :=
  let cs := moduleName.toList
  if cs.contains '.' then
    String.ofList ((cs.reverse.dropWhile (· != '.')).drop 1).reverse
  else moduleName

/-- The type and the configuration of a provider given by a value. -/
def providerTypeOf (given : Value) : Except Fault (Value × Value) :=
  match given with
  | .dict es => match Assoc.field? "type" es with
    | some type => .ok (type, (Assoc.field? "parameters" es).getD (.dict []))
    | none => .error (.misuse .noKey)
  | v => .ok (v, .dict [])

/-- The keywords of a configuration, which has to be a map, converted to the declared types. -/
def convertedKeywords (sig : Signature) (parameters : Value) : Act Fields := do
  match parameters with
  | .dict es =>
    match Entries.toFields? (← sig.convertNamed es) with
    | some keywords => return keywords
    | none => throw .wrongType
  | _ => throw .wrongType

/-! ### Binding -/

mutual

/-- A component bound to the provider that a value gives by its type.  The class of the type is
loaded for the package of the component. -/
def bindWithin : Nat → Nat → Value → Act Unit
  | 0, _, _ => throw (.misuse .endless)
  | fuel + 1, id, given => do
    if given.isNull then return ()
    let (type, parameters) ← providerTypeOf given
    let package := packageOf (← component id).kind.moduleName
    let path ← providerPathOf (.str package) (← settle type)
    let e ← findEntryOf path .provider
    bindBuilt fuel id (← buildWithin fuel e parameters)

/-- A component bound to what a path has made: a provider, or a value that stands for one. -/
def bindBuilt : Nat → Nat → Built → Act Unit
  | 0, _, _ => throw (.misuse .endless)
  | fuel + 1, id, built => match built with
    | .provider providerId => bindTo id providerId
    | .value v => bindWithin fuel id v
    | .component _ | .object => throw .wrongType

/-- What an entry makes of a configuration. -/
def buildWithin : Nat → Entry → Value → Act Built
  | 0, _, _ => throw (.misuse .endless)
  | fuel + 1, e, parameters => do
    let keywords ← convertedKeywords e.signature parameters
    match e with
    | .provider kind => return .provider (← newProvider kind keywords)
    | .component kind => do
      let (id, given) ← addUnbound kind keywords
      bindWithin fuel id (given.getD .null)
      return .component id
    | e => plainObject e keywords

end

/-- A count of bindings within bindings that a value cannot exceed. -/
def bindingFuel (v : Value) : Nat := 4 * v.weight + 8

/-- The value of what was built, null for objects. -/
def Built.valueD : Built → Value
  | .value v => v
  | _ => .null

/-- A component bound to the provider that a value gives by its type; null gives none. -/
def bindComponent (id : Nat) (given : Value) : Act Unit := bindWithin (bindingFuel given) id given

/-- A new component of a class from named values, bound to the provider it asks for. -/
def newComponent (kind : ComponentKind) (keywords : Fields) : Act Nat := do
  let (id, given) ← addUnbound kind keywords
  bindComponent id (given.getD .null)
  return id

/-- A new component of a class from named values, bound to a given provider. -/
def newComponentWith (kind : ComponentKind) (keywords : Fields) (providerId : Nat) : Act Nat := do
  let (id, _) ← addUnbound kind keywords
  bindTo id providerId
  return id

/-! ### Loading -/

/-- What the path of a provider makes of its configuration; without a path a plain provider. -/
def providerAt (path : Option String) (parameters : Value) : Act Built := do
  match path with
  | none =>
    match parameters.asDict?.bind Entries.toFields? with
    | some keywords => return .provider (← newProvider .plain keywords)
    | none => throw .wrongType
  | some path => buildWithin (bindingFuel parameters) (← findEntry path .provider) parameters

/-- What the path of a component makes of its configuration, bound to a provider if one is given.
What is no component is given the provider as a further keyword. -/
def componentAt (path : String) (parameters : Value) (bound : Option Built) : Act Built := do
  let e ← findEntry path .component
  match e, bound with
  | .component kind, some built => do
    let (id, _) ← addUnbound kind (← convertedKeywords e.signature parameters)
    bindBuilt (bindingFuel built.valueD) id built
    return .component id
  | e, none => buildWithin (bindingFuel parameters) e parameters
  | .provider kind, some _ => do
    let keywords ← convertedKeywords e.signature parameters
    return .provider (← newProvider kind (Fields.set providerKeyword .null keywords))
  | e, some _ => do
    let keywords ← convertedKeywords e.signature parameters
    plainObject e (Fields.set providerKeyword .null keywords)

end SearchKit
