import SearchKit.Query.Distinct

/-!
# Options of a search request

What a request asks beside its query: the defaults of the operation, the sort clauses or the
aggregation of distinct values, and the options of the predicate set, which win.

* `PredicateSet.optionsOver`: the options of a request, over the entries of the defaults.
* `PredicateSet.requestOptions`: the same over defaults given by a value.
* `PredicateSet.requestBody`: the body of a request, the options with the compiled query.
-/

namespace SearchKit.PredicateSet

/-- The options of a request without the aggregation of distinct values: the defaults, the sort
clauses if there are any, and over them the predicate set's own options. -/
def optionsOver (p : PredicateSet) (defaults : Entries) : Entries :=
  let sorted :=
    if p.sortClauses.isEmpty then defaults else defaults.set (.str "sort") (.list p.sortClauses)
  sorted.update p.options

/-- The options of a request.  A wanted distinct field replaces the defaults and the sort by its
aggregation; the predicate set's own options are written over all. -/
def requestOptions (p : PredicateSet) (defaults : Value) : Act Entries := do
  if p.distinctField.truthy then return (← distinctRequest p.distinctField).update p.options
  else return p.optionsOver (← entriesIn defaults)

/-- The body of a request: the options with the compiled query, if it has any clause. -/
def requestBody (query : CompiledQuery) (options : Entries) : Entries :=
  if query.isEmpty then options else options.set (.str "query") query.native

end SearchKit.PredicateSet
