import SearchKit.Catalog.Entry

/-!
# Modules

The modules from which components, providers and data classes are loaded, with what each one
defines and what else it knows by name.

* `ModuleEntry`: a module, with `ModuleEntry.find?` for one of its names.
* `modules`: the modules.
-/

namespace SearchKit

/-- A module. -/
structure ModuleEntry where
  /-- Its name. -/
  name : String
  /-- The classes it defines. -/
  defined : List Entry := []
  /-- What else it knows, each by the name it goes by itself. -/
  imported : List Entry := []
  /-- What it knows by another name. -/
  aliased : List (String × Entry) := []
  deriving Inhabited

namespace Catalog

/-- Names of constants. -/
def constants (names : List String) : List (String × Entry) := names.map fun n => (n, .constant)

/-- Classes without objects. -/
def interfaces (names : List String) : List Entry := names.map .interface

/-- Classes of errors. -/
def failures (names : List String) : List Entry := names.map .failure

/-- Modules of a package, by the last part of their name. -/
def submodules (package : String) (names : List String) : List (String × Entry) :=
  names.map fun n => (n, .module (package ++ "." ++ n))

/-- The mark of a module that takes annotations as they are written. -/
def annotated : List (String × Entry) := constants ["annotations"]

/-- The parameter of a way to the search backend. -/
def transportParameter : Parameter := { name := "transport", type := .handle "Transport" }

/-- The names of the records and sources of an application. -/
def recordInterfaces : List Entry := interfaces ["Record", "RecordSource"]

/-- The writer of bulk requests. -/
def bulkWriter : Entry := .plain "BulkWriteCoordinator" [
  transportParameter, { name := "soft_delete", type := .bool, fallback := some (.bool false) }]

/-- The runner of searches. -/
def searchRunner : Entry := .plain "SearchExecutor" [transportParameter]

/-- The keeper of indices. -/
def indexKeeper : Entry := .plain "IndexAdmin" [
  transportParameter, { name := "settings", type := .model .indexSettings }]

/-- The compiler of predicate sets. -/
def queryCompiler : Entry := .plain "QueryTranslator" []

/-- The reader of distinct values. -/
def distinctReader : Entry := .plain "DistinctAggregator" []

/-- The finder of records behind hits. -/
def recordFinder : Entry := .plain "ResultReconciler" []

/-- The converter of arguments. -/
def argumentConverter : Entry := .plain "TypeConverter" []

/-- The structured data of the engine, and the choice of a direction. -/
def engineData : List Entry := [
  .model .sortOrder, .model .rangeBound, .model .predicateSet, .model .compiledQuery,
  .model .indexOperation, .model .deleteOperation, .model .writeBatch, .model .indexSettings,
  .direction]

/-- The name of the mark of soft deletion. -/
def softDeletionMark : List (String × Entry) := constants ["SOFT_DELETED_FIELD"]

/-- The list of the names that a module offers. -/
def offered : List (String × Entry) := constants ["__all__"]

/-- What every module knows of itself. -/
def ofEveryModule : List (String × Entry) :=
  constants ["__name__", "__doc__", "__package__", "__loader__", "__spec__", "__file__",
    "__cached__", "__builtins__", "__dict__"] ++
  ["__delattr__", "__dir__", "__eq__", "__format__", "__ge__", "__getattribute__", "__getstate__",
    "__gt__", "__hash__", "__init__", "__init_subclass__", "__le__", "__lt__", "__ne__", "__new__",
    "__reduce__", "__reduce_ex__", "__repr__", "__setattr__", "__sizeof__", "__str__",
    "__subclasshook__"].map (fun n => (n, .interface n)) ++
  [("__class__", .interface "module")]

end Catalog

open Catalog

/-- The modules. -/
def modules : List ModuleEntry := [
  { name := "searchbridge.engine.component"
    defined := [.component .searchEngine]
    imported := [.component .plain, .model .response, .model .predicateSet, .function .operation] ++
      recordInterfaces ++ interfaces ["Any", "Iterable"]
    aliased := annotated },
  { name := "searchbridge.core._component"
    defined := [.component .plain]
    imported := [.model .context, .model .operation, .provider .plain, .model .response,
      argumentConverter, .interface "Any", .failure "NotSupportedError", .module "uuid"]
    aliased := annotated },
  { name := "searchbridge.core._provider"
    defined := [.provider .plain]
    imported := [.model .context, .model .operation, argumentConverter, .interface "Any",
      .failure "NotSupportedError"] },
  { name := "searchbridge.engine.providers.elasticsearch"
    defined := [.provider .elasticsearch, .plain "ElasticsearchTransport" [{ name := "client" }],
      .anyResponse]
    imported := [.model .context, .provider .plain, .model .response, .model .indexSettings,
      .model .predicateSet, .failure "BadRequestError", bulkWriter, searchRunner, indexKeeper,
      distinctReader, queryCompiler, recordFinder] ++ recordInterfaces ++
      interfaces ["Any", "Iterable", "Transport"]
    aliased := annotated ++ offered ++ constants ["DEFAULT_SEARCH_SIZE", "DEFAULT_PAGE_SIZE"] ++
      [("SyncElasticsearch", .client)] },
  { name := "searchbridge.engine._models"
    defined := engineData
    imported := [.dataModel, .failure "MalformedInputError"] ++
      interfaces ["Any", "Callable", "Enum", "Sequence"]
    aliased := annotated ++ softDeletionMark },
  { name := "searchbridge.core.manifest"
    defined := [.model .componentConfig, .model .manifest, .model .providerConfig]
    imported := [.dataModel, .plain "YamlLoader" [], .interface "Any"]
    aliased := annotated ++ offered ++ constants ["MANIFEST_FILE"] },
  { name := "searchbridge.core._operation"
    defined := [.model .operation]
    imported := [.dataModel, .interface "Any"]
    aliased := annotated },
  { name := "searchbridge.core.data_model"
    defined := [.dataModel]
    imported := [.modelRoot, .map "ConfigDict", .interface "Self"]
    aliased := offered },
  { name := "searchbridge.core.exceptions"
    defined := failures ["BaseError", "BadRequestError", "ConflictError", "InternalError",
      "LoadError", "MalformedInputError", "NotFoundError", "NotSupportedError"]
    aliased := offered },
  { name := "searchbridge.engine._record"
    defined := recordInterfaces
    imported := [.plain "Protocol" [], .function .runtimeCheckable] ++
      interfaces ["Any", "Iterable"]
    aliased := annotated },
  { name := "searchbridge.core"
    imported := [.component .plain, .model .context, .model .operation, .provider .plain,
      .model .response, .dataModel, .model .manifest, .loader, argumentConverter,
      .function (.log .debug), .function .logger, .function .operation, .function (.log .warning)]
    aliased := offered ++ constants ["__path__"] ++ submodules "searchbridge.core" ["_component",
      "_context", "_decorators", "_loader", "_log_helper", "_operation", "_provider", "_response",
      "_type_converter", "_yaml_loader", "data_model", "exceptions", "manifest"] },
  { name := "searchbridge.engine"
    imported := [.component .searchEngine] ++ engineData ++ recordInterfaces ++
      [bulkWriter, distinctReader, indexKeeper, queryCompiler, recordFinder, searchRunner,
        .interface "Transport"] ++
      failures ["BadRequestError", "MalformedInputError", "NotFoundError"]
    aliased := offered ++ softDeletionMark ++ constants ["__path__"] ++
      submodules "searchbridge.engine" ["_bulk", "_executor", "_index_admin", "_models", "_query",
        "_reconciler", "_record", "_transport", "component", "providers"] }]

/-- What a module knows by a name. -/
def ModuleEntry.find? (m : ModuleEntry) (name : String) : Option Entry :=
  ((m.defined ++ m.imported).find? fun e => e.name? == some name) <|>
    (m.aliased ++ ofEveryModule).lookup name

end SearchKit
