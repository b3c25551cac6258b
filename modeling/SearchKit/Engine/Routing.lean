import SearchKit.Call.Operation
import SearchKit.Engine.Attributes
import SearchKit.Engine.Binding
import SearchKit.Engine.Sample
import SearchKit.Engine.SearchEngine

/-!
# Routing of operations

An operation of a component goes to the provider bound to it; the component's own body runs only
where no provider is bound or the provider does not implement the operation.

* `Member`: what a name stands for on a provider or a component.
* `ProviderClasses`: what classes of providers offer; the routing is the same for all of them, and
  `ProviderClasses.standard` are those of the library.
* `runProvider`: an operation carried out by a provider.
* `runComponent`: an operation given as data, carried out by a component.
* `callOperation`: an operation of a component called with arguments.
* `callMember`, `callProviderMember`: a call by the name of a method.
-/

namespace SearchKit

/-! ### Members -/

/-- What a name stands for on an object. -/
inductive Member where
  /-- A method, which for the operation of a component is its body. -/
  | method (m : Method)
  /-- The carrying out of an operation. -/
  | run
  /-- The preparation for a call. -/
  | setup
  /-- The connection, which is built when it is looked at. -/
  | connection
  /-- A search callback of the application. -/
  | callback (name : String)
  /-- A method that every object has. -/
  | common (name : String)
  /-- Something that cannot be called. -/
  | inert

/-- The methods that every object has and that need an argument without a name. -/
def unaryNames : List String := [
  "__delattr__", "__eq__", "__format__", "__ge__", "__getattribute__", "__gt__", "__le__",
  "__lt__", "__ne__", "__new__", "__reduce_ex__", "__setattr__"]

/-- The methods that every object has and that need no argument. -/
def nullaryNames : List String := [
  "__dir__", "__getstate__", "__hash__", "__reduce__", "__repr__", "__sizeof__", "__str__"]

/-- The methods that every class has, whose parameters cannot be told. -/
def hiddenNames : List String := ["__init_subclass__", "__subclasshook__"]

/-- What every object has and cannot be called. -/
def inertNames : List String := [
  "__annotations__", "__dict__", "__doc__", "__handle__", "__module__", "__type__", "__weakref__"]

/-- What a name stands for on every object. -/
def commonMember? (name : String) : Option Member :=
  if inertNames.contains name then some .inert
  else if (unaryNames ++ nullaryNames ++ hiddenNames).contains name then some (.common name)
  else none

/-- A call by keywords of a method that every object has: none of them takes a keyword. -/
def callCommon (name : String) (args : Entries) : Except Fault Value :=
  if hiddenNames.contains name then .error (.misuse .badValue)
  else if args.isEmpty && nullaryNames.contains name then .ok .null
  else .error .wrongType

/-- The parameters of a search callback. -/
def callbackSignature : Signature where
  parameters := [{ name := "transport" }, { name := "query" }, { name := "options" }]

/-- A search callback called as a method. -/
def callCallback (name : String) (a : Arguments) : Act Value :=
  runCallback (.unusable (a.get "transport")) name (a.get "query") (a.get "options")

/-! ### Classes of providers -/

/-- The classes of providers: what their names stand for, and how they prepare for a call. -/
structure ProviderClasses where
  /-- What a name stands for in a class. -/
  member? : ProviderKind → String → Option Member
  /-- The preparation of the provider at a place for a call with a context. -/
  setup : Nat → Value → Act Unit

/-- The methods of a class of providers. -/
def ProviderKind.methods : ProviderKind → List (String × Method)
  | .plain => []
  | .elasticsearch => Elasticsearch.methods
  | .sample => Sample.providerMethods

/-- The making anew of a provider. -/
def ProviderKind.initializer (kind : ProviderKind) : Method where
  signature := kind.signature
  body := fun id a => do
    initializeProvider id a
    return .null

/-- What a name stands for in a class of providers. -/
def ProviderKind.member? (kind : ProviderKind) (name : String) : Option Member :=
  match name, kind with
  | "__run__", _ => some .run
  | "__setup__", _ => some .setup
  | "__init__", kind => some (.method kind.initializer)
  | "transport", .elasticsearch => some .connection
  | "_transport", .elasticsearch | "_init", .elasticsearch | "attribute", .sample => some .inert
  | name, kind => ((kind.methods.lookup name).map .method) <|> commonMember? name

/-- The preparation of a provider for a call: the one for Elasticsearch makes sure that it has a
connection. -/
def setupProvider (id : Nat) (context : Value) : Act Unit := do
  match (← provider id).kind with
  | .plain => return ()
  | .elasticsearch => let _ ← Elasticsearch.connection id
  | .sample =>
    match context with
    | .null | .model .context _ => emit (.setup context)
    | _ => throw .noPart

/-- The classes of the library. -/
def ProviderClasses.standard : ProviderClasses where
  member? := ProviderKind.member?
  setup := setupProvider

/-- What an attribute of an object stands for. -/
def Member.ofValue : Value → Member
  | .callback name => .callback name
  | _ => .inert

/-- What a name stands for on a provider; its configuration hides what its class has. -/
def ProviderClasses.memberOf? (classes : ProviderClasses) (p : Provider) (name : String) :
    Option Member :=
  match p.settings.get? name with
  | some v => some (.ofValue v)
  | none =>
    if name = ownerName ∧ p.owner.isSome then some .inert else classes.member? p.kind name

/-- The preparation of the provider at a place for a call, unless its configuration hides it. -/
def ProviderClasses.prepare (classes : ProviderClasses) (id : Nat) (context : Value) :
    Act Unit := do
  requireOwn id "__setup__"
  classes.setup id context

/-! ### Providers -/

/-- The parameters of carrying out an operation. -/
def runSignature : Signature where
  parameters := [
    Elasticsearch.optionalParameter "operation" (.model .operation),
    Elasticsearch.optionalParameter "context" (.model .context)]
  further := true

/-- The parameters of the preparation for a call. -/
def setupSignature : Signature where
  parameters := [Elasticsearch.optionalParameter "context" (.model .context)]

/-- The fault that nothing implements an operation; its wording is the operation as JSON. -/
def unsupported (op : Operation) : Act Value := do
  throw (.unsupported (← op.json))

/-- An operation carried out by a provider, with fuel for operations within operations. -/
def runProvider (classes : ProviderClasses) : Nat → Nat → Value → Value → Act Value
  | 0, _, _, _ => throw (.misuse .endless)
  | fuel + 1, id, operation, context => do
    match Operation.ofValue? operation with
    | none =>
      if operation.isNull then throw (.unsupported Value.null.text) else throw .noPart
    | some op =>
      let name := op.name.getD ""
      if name = "" then unsupported op
      else
        let args := op.args.getD []
        match classes.memberOf? (← provider id) name with
        | some (.method m) =>
          classes.prepare id context
          m.callConverted id args
        | some .run =>
          classes.prepare id context
          let a ← runSignature.bindEntries (← runSignature.convertNamed args)
          runProvider classes fuel id (a.get "operation") (a.get "context")
        | some .setup =>
          classes.prepare id context
          let a ← setupSignature.bindEntries (← setupSignature.convertNamed args)
          classes.prepare id (a.get "context")
          return .null
        | some (.callback callback) =>
          classes.prepare id context
          callCallback callback (← callbackSignature.bindEntries args)
        | some (.common name) =>
          classes.prepare id context
          return ← callCommon name args
        | some .connection =>
          let _ ← Elasticsearch.connection id
          unsupported op
        | some .inert | none => unsupported op

/-! ### Components -/

/-- The operations of a class of components. -/
def ComponentKind.operations : ComponentKind → List (String × Method)
  | .plain => []
  | .searchEngine => SearchEngine.operations
  | .sample => Sample.operations

/-- The identifier of a context that is given none. -/
def freshContextId : String := "generated"

/-- The context that an operation runs in, with an identifier. -/
def contextFor (context : Value) : Act Value := do
  let context ← match context with
    | .dict es => model .context (.dict es)
    | v => pure v
  match context with
  | .null => return .model .context [("id", .str freshContextId), ("data", .null)]
  | .model .context [(_, id), (_, data)] =>
    return .model .context [("id", if id.isNull then .str freshContextId else id), ("data", data)]
  | _ => throw .noPart

/-- The operation of a value: a map or a name stands for one. -/
def toOperation (operation : Value) : Act Value := do
  match operation with
  | .dict es => model .operation (.dict es)
  | .str name => return Operation.toValue { name := some name, args := none }
  | v => return v

/-- The answer of a component: the raw answer of the backend is dropped unless the component keeps
it, and the result stands alone if the component unpacks it. -/
def Component.present (c : Component) (answer : Value) : Value :=
  match Response.ofValue? answer with
  | none => answer
  | some r =>
    let r := if c.native.truthy then r else { r with native := .null }
    if c.unpack.truthy then r.result else r.toValue

/-- The making anew of a component, which may bind it. -/
def ComponentKind.initializer (kind : ComponentKind) : Method where
  signature := kind.signature
  body := fun id a => do
    initializeComponent id a
    bindComponent id (a.further.getD providerKeyword)
    return .null

/-- What components are made of beside their operations. -/
def ComponentKind.parts (kind : ComponentKind) : List (String × Method) := [
  ("__init__", kind.initializer),
  ("__bind__", {
    signature.parameters := [{ name := "provider" }]
    body := fun id a => do
      bindComponent id (a.get "provider")
      return .null }),
  ("_convert_operation", {
    signature.parameters := [{ name := "operation" }]
    body := fun _ a => toOperation (a.get "operation") }),
  ("_init_context", {
    signature.parameters := [{ name := "context" }]
    body := fun _ a => contextFor (a.get "context") })]

/-- The attributes of every component that cannot be called. -/
def componentAttributes : List String := ["__native__", "__unpack__"]

/-- The operation of a name, unless an attribute hides it. -/
def Component.operation? (c : Component) (name : String) : Option Method :=
  if (c.settings.get? name).isSome then none else c.kind.operations.lookup name

/-- What a name stands for on a component, its operations aside. -/
def Component.member? (c : Component) (name : String) : Option Member :=
  if (c.settings.get? name).isSome || componentAttributes.contains name ||
      (name == providerKeyword && c.provider.isSome) then some .inert
  else match name with
    | "__run__" => some .run
    | "__setup__" => some .setup
    | name => ((c.kind.parts.lookup name).map .method) <|> commonMember? name

/-- The preparation of a component, which hands its context on to its provider. -/
def prepareComponent (classes : ProviderClasses) (id : Nat) (context : Value) : Act Value := do
  match (← component id).provider with
  | some p => classes.prepare p context; return .null
  | none => throw .noPart

/-- The parameters of carrying out an operation by a component, which takes any data for it. -/
def runComponentSignature : Signature where
  parameters := [
    { name := "operation", fallback := some .null }, { name := "context", fallback := some .null }]
  further := true

/-- An operation given as data, carried out by a component: by its provider if it has one, else by
the component's own method of that name.  There is fuel for operations within operations. -/
def runWithin (classes : ProviderClasses) : Nat → Nat → Value → Value → Act Value
  | 0, _, _, _ => throw (.misuse .endless)
  | fuel + 1, id, operation, context => do
    let context ← contextFor context
    let operation ← toOperation operation
    let c ← component id
    let answer ← match c.provider with
      | some p => do
        requireOwn p "__run__"
        runProvider classes (operation.weight + 1) p operation context
      | none => match Operation.ofValue? operation with
        | none => if operation.truthy then throw .noPart else throw (.unsupported "")
        | some op =>
          let name := op.name.getD ""
          let args := op.args.getD []
          match c.operation? name with
          | some m => do
            let args ← m.signature.convertNamed args
            m.call id [] (((Entries.toFields? args).getD []).erase "__context__")
          | none => match c.member? name with
            | some (.method m) => m.callConverted id args
            | some .run => do
              let a ← runComponentSignature.bindEntries args
              runWithin classes fuel id (a.get "operation") (a.get "context")
            | some .setup => do
              let a ← setupSignature.bindEntries (← setupSignature.convertNamed args)
              prepareComponent classes id (a.get "context")
            | some (.common name) => do return ← callCommon name args
            | _ => throw (.unsupported name)
    return (← component id).present answer

/-- An operation given as data, carried out by a component. -/
def runComponent (classes : ProviderClasses) (id : Nat) (operation context : Value) : Act Value :=
  runWithin classes (operation.weight + 1) id operation context

/-- The name of the keyword that gives the context of a call. -/
def contextKeyword : String := "__context__"

/-- An operation of a component called with arguments.  It is routed to the provider; the body of
the component runs where there is none or the operation is unsupported. -/
def callOperation (classes : ProviderClasses) (id : Nat) (name : String) (m : Method)
    (positional : List Value) (keywords : Fields) : Act Value := do
  let context := keywords.getD contextKeyword
  let keywords := keywords.erase contextKeyword
  match (← component id).provider with
  | none => m.call id positional keywords
  | some _ =>
    let a ← m.signature.bind positional keywords
    let op ← Operation.ofCall (.str name) (.dict (m.signature.spread a))
    tryCatch (runComponent classes id op.toValue context) fun fault =>
      if fault.isUnsupported then m.call id positional keywords else throw fault

/-! ### Members by name -/

/-- A method that every object has, called with arguments by place or by name. -/
def callCommonWith (name : String) (positional : List Value) (keywords : Fields) :
    Except Fault Value :=
  if positional.isEmpty && keywords.isEmpty &&
      (nullaryNames ++ hiddenNames).contains name then .ok .null
  else .error .wrongType

/-- A method that every object has, called on a component with arguments. -/
def callCommonOf (id : Nat) (name : String) (positional : List Value) (keywords : Fields) :
    Act Value := do
  let c ← component id
  match if keywords.isEmpty then AttributeCall.ofArguments? name positional else none with
  | some (.assign name v) => putComponent id (← c.assign name v); return .null
  | some (.delete name) => putComponent id (← c.unassign name); return .null
  | some (.read name) => match c.attribute? name with
    | some v => return v
    | none =>
      if (c.operation? name).isSome || (c.member? name).isSome then return .null
      else throw .noPart
  | none => return ← callCommonWith name positional keywords

/-- A method that every object has, called on a provider with arguments. -/
def callCommonOfProvider (classes : ProviderClasses) (id : Nat) (name : String)
    (positional : List Value) (keywords : Fields) : Act Value := do
  let p ← provider id
  match if keywords.isEmpty then AttributeCall.ofArguments? name positional else none with
  | some (.assign name v) => assignTo id name v; return .null
  | some (.delete name) => putProvider id (← p.unassign name); return .null
  | some (.read name) => match p.attribute? name with
    | some v => return v
    | none => if (classes.memberOf? p name).isSome then return .null else throw .noPart
  | none => return ← callCommonWith name positional keywords

/-- A method of a component by its name, called with arguments. -/
def callMember (classes : ProviderClasses) (id : Nat) (name : String) (positional : List Value)
    (keywords : Fields) : Act Value := do
  let c ← component id
  match c.operation? name with
  | some m => callOperation classes id name m positional keywords
  | none => match c.member? name with
    | some (.method m) => m.call id positional keywords
    | some .run => do
      let a ← runComponentSignature.bind positional keywords
      runComponent classes id (a.get "operation") (a.get "context")
    | some .setup => do
      let a ← setupSignature.bind positional keywords
      prepareComponent classes id (a.get "context")
    | some (.common name) => callCommonOf id name positional keywords
    | some _ => throw .wrongType
    | none => throw .noPart

/-- A member of the provider of a component by its name, called with arguments. -/
def callProviderMember (classes : ProviderClasses) (id : Nat) (name : String)
    (positional : List Value) (keywords : Fields) : Act Value := do
  match (← component id).provider with
  | none => throw .noPart
  | some p => match classes.memberOf? (← provider p) name with
    | some (.method m) => m.call p positional keywords
    | some .run => do
      let a ← runSignature.bind positional keywords
      let operation := a.get "operation"
      runProvider classes (operation.weight + 1) p operation (a.get "context")
    | some .setup => do
      let a ← setupSignature.bind positional keywords
      classes.setup p (a.get "context")
      return .null
    | some (.callback callback) => do
      callCallback callback (← callbackSignature.bind positional keywords)
    | some (.common name) => callCommonOfProvider classes p name positional keywords
    | some .connection => do
      let _ ← Elasticsearch.connection p
      throw .wrongType
    | some .inert => throw .wrongType
    | none => throw .noPart

end SearchKit
