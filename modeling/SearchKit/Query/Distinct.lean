import SearchKit.Query.Compiled
import SearchKit.Session.Sequence

/-!
# Distinct values of a field

The request for the distinct values of a field, and their reading from a response.

* `distinctRequest`: the aggregation over the exact form of a field.
* `bucketKeys`: the keys of the buckets of a response; a part that is absent gives none.
-/

namespace SearchKit

/-- The greatest count of distinct values. -/
def distinctLimit : Int := 200

/-- The part of a field that holds its exact form. -/
def exactForm : String := "raw"

/-- The request for the distinct values of a field, most frequent first. -/
def distinctRequest (field : Value) : Except Fault Entries := do
  let name ← field.spell
  if field.hashable then
    return Entries.ofFields [
      ("stored_fields", field),
      ("aggregations", .dict [(field, single "terms" (Fields.toValue [
        ("field", .str (name ++ "." ++ exactForm)),
        ("size", .int distinctLimit),
        ("min_doc_count", .int 1),
        ("shard_min_doc_count", .int 1),
        ("show_term_doc_count_error", .bool false),
        ("order", Fields.toValue [("_count", .str "desc"), ("_key", .str "asc")])]))])]
  else throw .wrongType

/-- The key of a bucket, null when it has none. -/
def bucketKey : Value → Except Fault Value
  | .dict es => .ok ((Assoc.field? "key" es).getD .null)
  | _ => .error .noPart

/-- The buckets of the aggregation of a field in a response: none where the response or the
aggregation is no map or the buckets are absent. -/
def buckets (response field : Value) : Except Fault Value :=
  match response with
  | .dict es => match (Assoc.field? "aggregations" es).getD (.dict []) with
    | .dict aggregations =>
      if field.hashable then
        match Assoc.get? field aggregations with
        | some (.dict aggregation) => .ok ((Assoc.field? "buckets" aggregation).getD (.list []))
        | _ => .ok (.list [])
      else .error .wrongType
    | _ => .error .noPart
  | _ => .ok (.list [])

/-- The keys of the buckets of a field in a response, in order. -/
def bucketKeys (response field : Value) : Act (List Value) := do
  mapItems (← buckets response field) fun bucket => return ← bucketKey bucket

end SearchKit
