import SearchKit.Call.Signature

/-!
# What names of modules stand for

Components, providers and data classes are loaded by name from modules.  A module knows further
names beside them: other classes, functions, modules and constants.

* `Entry`: what a name stands for, with `Entry.name?`, the name it goes by itself.
* `Entry.derivesFrom`: the classes of components, of providers and of structured data.
-/

namespace SearchKit

/-- A function of a module. -/
inductive CatalogFunction where
  /-- An entry of the log at a level. -/
  | log (level : LogLevel)
  /-- The log of a name. -/
  | logger
  /-- The marking of an operation, with its configuration. -/
  | operation
  /-- The marking of an interface that can be tested at run time. -/
  | runtimeCheckable
  deriving DecidableEq, Repr, Inhabited

/-- The name of a function. -/
def CatalogFunction.name : CatalogFunction → String
  | log .warning => "warn"
  | log .debug => "debug"
  | logger => "get_logger"
  | operation => "operation"
  | runtimeCheckable => "runtime_checkable"

/-- What a name stands for. -/
inductive Entry where
  /-- A class of components. -/
  | component (kind : ComponentKind)
  /-- A class of providers. -/
  | provider (kind : ProviderKind)
  /-- A class of structured data. -/
  | model (kind : ModelKind)
  /-- The base of the library's structured data, which declares no field. -/
  | dataModel
  /-- Responses with any result. -/
  | anyResponse
  /-- The root of all structured data, which has no objects of its own. -/
  | modelRoot
  /-- A class whose objects are built from parameters and are neither components, nor providers, nor
  structured data. -/
  | plain (name : String) (parameters : List Parameter)
  /-- A class of errors. -/
  | failure (name : String)
  /-- A class that has no objects of its own. -/
  | interface (name : String)
  /-- The choice of a sort direction. -/
  | direction
  /-- The loader of a manifest. -/
  | loader
  /-- The client of a search backend. -/
  | client
  /-- A class whose objects are maps. -/
  | map (name : String)
  /-- A function. -/
  | function (f : CatalogFunction)
  /-- A module. -/
  | module (name : String)
  /-- Something without a name of its own. -/
  | constant
  deriving Inhabited

/-- The base classes by which a module is searched. -/
inductive BaseClass where
  | component
  | provider
  | dataModel
  deriving DecidableEq, Repr

/-- The name of a base class. -/
def BaseClass.name : BaseClass → String
  | component => "Component"
  | provider => "Provider"
  | dataModel => "DataModel"

/-- The name of a class of components. -/
def ComponentKind.name : ComponentKind → String
  | .plain => "Component"
  | .searchEngine => "SearchEngine"
  | .sample => "HostComponent"

/-- The name of a class of providers. -/
def ProviderKind.name : ProviderKind → String
  | .plain => "Provider"
  | .elasticsearch => "Elasticsearch"
  | .sample => "HostProvider"

/-- The modules of the classes of components. -/
def ComponentKind.moduleName : ComponentKind → String
  | .plain => "searchbridge.core._component"
  | .searchEngine => "searchbridge.engine.component"
  | .sample => "__main__"

/-- The modules of the classes of providers. -/
def ProviderKind.moduleName : ProviderKind → String
  | .plain => "searchbridge.core._provider"
  | .elasticsearch => "searchbridge.engine.providers.elasticsearch"
  | .sample => "__main__"

namespace Entry

/-- The name that what is named goes by itself. -/
def name? : Entry → Option String
  | component kind => some kind.name
  | provider kind => some kind.name
  | model kind => some kind.name
  | dataModel => some "DataModel"
  | anyResponse => some "Response[Any]"
  | modelRoot => some "BaseModel"
  | plain name _ | failure name | interface name | map name | module name => some name
  | direction => some "SortDirection"
  | loader => some "Loader"
  | client => some "HostClient"
  | function f => some f.name
  | constant => none

/-- The class derives from a base class. -/
def derivesFrom (e : Entry) (base : BaseClass) : Bool :=
  match e, base with
  | component _, .component => true
  | provider _, .provider => true
  | model _, .dataModel | dataModel, .dataModel | anyResponse, .dataModel => true
  | _, _ => false

end Entry

end SearchKit
