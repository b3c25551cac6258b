import SearchKit.Engine.Elasticsearch

/-!
# The search engine

The operations that the search engine offers.  All of them are left to its provider: without one
that implements them they are not available.

* `SearchEngine.operations`: the operations by name, with their parameters.
-/

namespace SearchKit.SearchEngine

open Elasticsearch (optionalParameter predicatesParameter resultsParameter sourceParameter)

/-- An operation that only a provider implements; it takes further keywords. -/
def leftToProvider (parameters : List Parameter) : Method where
  signature := { parameters, further := true }
  body := fun _ _ => throw (.misuse .notImplemented)

/-- The operations by name. -/
def operations : List (String × Method) := [
  ("update", leftToProvider [{ name := "records" }]),
  ("delete", leftToProvider [{ name := "records" }, optionalParameter "collection" .str]),
  ("search", leftToProvider [predicatesParameter]),
  ("paginate", leftToProvider [
    predicatesParameter, { name := "per_page", type := .int, fallback := some (.int 10) },
    { name := "page", type := .int, fallback := some (.int 1) }]),
  ("distinct", leftToProvider [predicatesParameter, optionalParameter "field" .str]),
  ("count", leftToProvider [predicatesParameter]),
  ("map_ids", leftToProvider [resultsParameter]),
  ("map", leftToProvider [predicatesParameter, resultsParameter, sourceParameter]),
  ("lazy_map", leftToProvider [predicatesParameter, resultsParameter, sourceParameter]),
  ("get_total_count", leftToProvider [resultsParameter]),
  ("flush", leftToProvider [sourceParameter, optionalParameter "collection" .str]),
  ("create_index", leftToProvider [
    { name := "name", type := .str }, optionalParameter "options" (.dictOf .str .any)]),
  ("delete_index", leftToProvider [{ name := "name", type := .str }]),
  ("close", leftToProvider [])]

end SearchKit.SearchEngine
