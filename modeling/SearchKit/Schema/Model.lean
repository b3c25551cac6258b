import SearchKit.Schema.Shape

/-!
# The declared data of the library

The fields of every kind of structured data, with their shapes and defaults.

* `ModelKind.shape`: the shape of a kind.
* `ModelKind.ofName?`: the kind of a name.
* `ModelKind.ofValue`: structured data from a value that has the shape of the kind.
-/

namespace SearchKit

/-- A field that may be null and is so by default. -/
def optionalField (name : String) (s : Shape) : String × Shape × Option Value :=
  (name, .optional s, some .null)

/-- A field with an empty map as its default. -/
def mapField (name : String) (s : Shape) : String × Shape × Option Value :=
  (name, .dictOf s, some (.dict []))

/-- A field with an empty list as its default. -/
def listField (name : String) (s : Shape) : String × Shape × Option Value :=
  (name, .listOf s, some (.list []))

/-- A field without a default. -/
def requiredField (name : String) (s : Shape) : String × Shape × Option Value := (name, s, none)

/-- Data passed along with an operation. -/
def contextShape : Shape :=
  .object .context [optionalField "id" .str, optionalField "data" (.dictOf .any)]

/-- A request by name. -/
def operationShape : Shape :=
  .object .operation [optionalField "name" .str, optionalField "args" (.dictOf .any)]

/-- One field to sort on. -/
def sortOrderShape : Shape :=
  .object .sortOrder [requiredField "field" .str, ("direction", .direction, some (.str "asc"))]

/-- Inclusive bounds of a range. -/
def rangeBoundShape : Shape :=
  .object .rangeBound [optionalField "gte" .any, optionalField "lte" .any]

/-- A query description. -/
def predicateSetShape : Shape := .object .predicateSet [
  ("query", .str, some (.str "")), mapField "wheres" .any, mapField "where_ins" (.listOf .any),
  mapField "where_not_ins" (.listOf .any), mapField "ranges" rangeBoundShape,
  listField "orders" sortOrderShape, optionalField "limit" .int, ("offset", .int, some (.int 0)),
  optionalField "distinct_field" .str, optionalField "index" .str, mapField "options" .any,
  optionalField "callback" .callable, optionalField "source" .any]

/-- A boolean query tree. -/
def compiledQueryShape : Shape := .object .compiledQuery [
  listField "must" (.dictOf .any), listField "filter" (.dictOf .any),
  listField "should" (.dictOf .any), listField "must_not" (.dictOf .any),
  optionalField "minimum_should_match" .int]

/-- The writing of one document. -/
def indexOperationShape : Shape := .object .indexOperation [
  requiredField "collection" .str, requiredField "id" .str, requiredField "document" (.dictOf .any)]

/-- The deletion of one document. -/
def deleteOperationShape : Shape := .object .deleteOperation [
  requiredField "collection" .str, requiredField "id" .str]

/-- Writes sent together. -/
def writeBatchShape : Shape := .object .writeBatch [
  optionalField "collection" .str,
  listField "operations" (.either indexOperationShape deleteOperationShape)]

/-- Settings for the creation of indices. -/
def indexSettingsShape : Shape := .object .indexSettings [
  mapField "default" .any, mapField "indices" (.dictOf .any)]

/-- A provider in a manifest. -/
def providerConfigShape : Shape := .object .providerConfig [
  requiredField "type" .str, mapField "parameters" .any]

/-- A component in a manifest. -/
def componentConfigShape : Shape := .object .componentConfig [
  requiredField "type" .str, mapField "parameters" .any, mapField "providers" providerConfigShape]

/-- A manifest. -/
def manifestShape : Shape := .object .manifest [
  mapField "variables" .any, mapField "components" componentConfigShape,
  mapField "bindings" (.dictOf .str)]

/-- The answer of a provider. -/
def responseShape : Shape := .object .response [
  requiredField "result" .any, optionalField "context" contextShape,
  optionalField "native" (.dictOf .any)]

namespace ModelKind

/-- The shape of a kind of structured data. -/
def shape : ModelKind → Shape
  | context => contextShape
  | operation => operationShape
  | sortOrder => sortOrderShape
  | rangeBound => rangeBoundShape
  | predicateSet => predicateSetShape
  | compiledQuery => compiledQueryShape
  | indexOperation => indexOperationShape
  | deleteOperation => deleteOperationShape
  | writeBatch => writeBatchShape
  | indexSettings => indexSettingsShape
  | providerConfig => providerConfigShape
  | componentConfig => componentConfigShape
  | manifest => manifestShape
  | response => responseShape

/-- Every kind of structured data. -/
def all : List ModelKind := [
  context, operation, sortOrder, rangeBound, predicateSet, compiledQuery, indexOperation,
  deleteOperation, writeBatch, indexSettings, providerConfig, componentConfig, manifest, response]

/-- The kind of a name. -/
def ofName? (name : String) : Option ModelKind := all.find? fun kind => kind.name == name

/-- Structured data of a kind from a value that has its shape. -/
def ofValue (kind : ModelKind) (v : Value) : Except Fault Value :=
  (kind.shape.check v).mapError .invalid

end ModelKind

end SearchKit
