import SearchKit.Session.Sequence

/-!
# Search results

The parts of a response of the backend: the section of the hits, their count and their
identifiers.

* `hitsSection`, `totalCount`: the section of the hits and the count it states.
* `hitIds`: the identifiers of the hits as they are, null where one is missing.
* `hitKeys`: the identifiers of the hits as texts; every hit has to have one that can be written.
* `hitKeys_eq_mapItems`: both read the same hits.
-/

namespace SearchKit

/-- The section of the hits of a response, null when there is none. -/
def hitsSection : Value → Value
  | .dict es => (Assoc.field? "hits" es).getD .null
  | _ => .null

/-- The count of hits that a result states, as a number or under `value`; 0 when it states none. -/
def totalCount : Value → Value
  | .dict es => match (Assoc.field? "total" es).getD .null with
    | .dict total =>
      let stated := (Assoc.field? "value" total).getD (.int 0)
      if stated.truthy then stated else .int 0
    | .int n => .int n
    | .bool b => .bool b
    | _ => .int 0
  | _ => .int 0

/-- The hits that a result lists under `hits`, a null or empty entry being no hits; a result that
is no map lists none. -/
def listedHits : Value → Value
  | .dict es =>
    let hits := (Assoc.field? "hits" es).getD .null
    if hits.truthy then hits else .list []
  | _ => .list []

/-- The identifier of a hit, null when it has none. -/
def hitId : Value → Except Fault Value
  | .dict es => .ok ((Assoc.field? "_id" es).getD .null)
  | _ => .error .noPart

/-- The identifiers of the hits of a result, in rank order. -/
def hitIds (results : Value) : Act (List Value) :=
  mapItems (listedHits results) fun hit => return ← hitId hit

/-- The identifier of a hit as a text. -/
def hitKey : Value → Except Fault String
  | .dict es => match Assoc.field? "_id" es with
    | some id => id.spell
    | none => .error (.misuse .noKey)
  | _ => .error .wrongType

/-- The identifiers of the hits of a result as texts, in rank order.  A result that is no map has
none, and neither has one whose entry of hits is missing, null or empty. -/
def hitKeys : Value → Act (List String)
  | .dict es =>
    let hits := (Assoc.field? "hits" es).getD .null
    if hits.truthy then mapItems hits fun hit => return ← hitKey hit
    else return []
  | _ => return []

/-- The identifiers as texts are those of the listed hits. -/
theorem hitKeys_eq_mapItems (results : Value) :
    hitKeys results = mapItems (listedHits results) (fun hit => return ← hitKey hit) := by
  cases results with
  | dict es =>
    rw [hitKeys, listedHits]
    split <;> rfl
  | _ => rfl

end SearchKit
