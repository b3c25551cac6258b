import SearchKit.Query.Options

/-!
# Running a search

One search is one outward call: the callback of the predicate set when it has one, else a search
request.

* `PredicateSet.compile`: the compiled query, with text fields given by a value.
* `runCallback`: a callback with the query and the body it is given.
* `executeSearch`: the search of a predicate set.
-/

namespace SearchKit

/-- The compiled query of a predicate set.  The names of the text fields are looked at only when
there is a free text. -/
def PredicateSet.compile (p : PredicateSet) (fields : Value) : Act CompiledQuery := do
  if p.query = "" ∨ !fields.truthy then return p.compileWith []
  else return p.compileWith (← itemsOf fields)

/-- A search callback, given the free text and the body of the request; it may search over the same
connection. -/
def runCallback (via : Connection) (name : String) (query body : Value) : Act Value := do
  emit (.callback via name query body)
  match (← get).callbacks.lookup name with
  | none => throw .noPart
  | some (.answers v) => return v
  | some (.forwards index) => send via (.search index body)
  | some (.fails f) => throw f.fault

/-- The search of a predicate set in an index. -/
def executeSearch (via : Connection) (index : Value) (p : PredicateSet) (query : CompiledQuery)
    (options : Entries) : Act Value := do
  let body : Value := .dict (PredicateSet.requestBody query options)
  match p.callback with
  | .null =>
    log .debug (some "executor") ("Searching " ++ (← index.spell))
    send via (.search index body)
  | .callback name => runCallback via name (.str p.query) body
  | _ => throw .wrongType

end SearchKit
