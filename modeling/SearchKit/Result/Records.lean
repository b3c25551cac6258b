import SearchKit.Result.Hits

/-!
# From hits to records

The records behind the hits of a result, in rank order, from a source of the application.

* `recordsBehind`: the records at once, in the collection type of the source.
* `recordsLazily`: a sequence that fetches the records when the first one is wanted.
-/

namespace SearchKit

/-- The records behind the hits.  Without hits nothing is fetched. -/
def recordsBehind (results source : Value) : Act Value := do
  let ids ← hitKeys results
  let _ ← theSource source
  if ids.isEmpty then return .collection []
  let records ← fetch source false ids
  return .collection (← rankRecords ids records)

/-- The sequence of the records behind the hits.  Without hits it is empty from the start. -/
def recordsLazily (results source : Value) : Act Value := do
  let ids ← hitKeys results
  if ids.isEmpty then
    let _ ← theSource source
    openSequence (.items [])
  else openSequence (.deferred source ids)

end SearchKit
