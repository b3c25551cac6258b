import SearchKit.Schema.Model
import SearchKit.Session.Sequence

/-!
# Settings of indices

The settings that an index is created with are layered: the configured default, the entry of the
index, and the options of the call.

* `mergeInto`: a settings document with another one laid over it, maps merged at every depth.
* `IndexSettings`: the configured settings, and `IndexSettings.body` for an index.
-/

namespace SearchKit

mutual

/-- The value under a key with another one laid over it: two maps are merged, anything else is
replaced. -/
def overlay (base : Option Value) : Value → Value
  | .dict top => match base with
    | some (.dict es) => .dict (mergeEntries es top)
    | _ => .dict top
  | v => v

/-- A settings document with another one laid over it, entry by entry. -/
def mergeEntries (base : List (Value × Value)) : List (Value × Value) → List (Value × Value)
  | [] => base
  | (k, v) :: rest => mergeEntries (Assoc.set k (overlay (Assoc.get? k base) v) base) rest

end

/-- The place that a key names in a list of a length; negative places count from the end. -/
def placeIn (length : Nat) : Value → Except Fault Nat
  | .int n => inRange n
  | .bool b => inRange (if b then 1 else 0)
  | _ => .error .wrongType
where
  /-- A place within the list. -/
  inRange (n : Int) : Except Fault Nat :=
    let place := if n < 0 then n + length else n
    if 0 ≤ place ∧ place < length then .ok place.toNat else .error (.misuse .noPlace)

/-- A list with entries laid over it, each of which replaces the item at the place of its key.  A
map cannot be laid over an item. -/
def replaceItems (xs : List Value) : List (Value × Value) → Except Fault (List Value)
  | [] => .ok xs
  | (_, .dict _) :: _ => .error .noPart
  | (k, v) :: rest => do replaceItems (xs.set (← placeIn xs.length k) v) rest

/-- A settings document with another one laid over it.  Only a map can be laid over; over a list its
keys are places, and over anything else only an empty one goes. -/
def mergeInto (base top : Value) : Except Fault Value :=
  match top, base with
  | .dict es, .dict b => .ok (.dict (mergeEntries b es))
  | .dict es, .list xs => (replaceItems xs es).map .list
  | .dict es, .collection xs => (replaceItems xs es).map .collection
  | .dict [], v => .ok v
  | .dict ((_, .dict _) :: _), _ => .error .noPart
  | .dict _, _ => .error .wrongType
  | _, _ => .error .noPart

/-- The configured settings of indices. -/
structure IndexSettings where
  /-- The settings of every index. -/
  default : Entries := []
  /-- The settings of single indices. -/
  indices : Entries := []
  deriving Inhabited, Repr

namespace IndexSettings

/-- Settings as structured data. -/
def toValue (s : IndexSettings) : Value :=
  .model .indexSettings [("default", .dict s.default), ("indices", .dict s.indices)]

/-- The settings of structured data. -/
def ofValue? : Value → Option IndexSettings
  | .model .indexSettings [(_, .dict default), (_, .dict indices)] => some ⟨default, indices⟩
  | _ => none

/-- The configured settings from the entries of a configuration: its entry `default` is for every
index, the others are for the index of their name. -/
def ofEntries (es : Entries) : Except Fault IndexSettings := do
  let default := (es.field? "default").getD .null
  let default := if default.truthy then default else .dict []
  let named : Value := .dict (es.erase (.str "default"))
  let checked ← ModelKind.indexSettings.ofValue
    (Fields.toValue [("default", default), ("indices", named)])
  match ofValue? checked with
  | some settings => .ok settings
  | none => .error .wrongType

/-- The configured settings from a configuration; an empty one gives none. -/
def ofConfig (config : Value) : Act IndexSettings := do
  return ← ofEntries (← if config.truthy then entriesIn config else pure [])

/-- The settings document of an index: the default, the entry of the index and the options of the
call, later ones laid over earlier ones. -/
def body (s : IndexSettings) (name options : Value) : Except Fault Value := do
  unless name.hashable do throw .wrongType
  let own := (s.indices.get? name).getD .null
  let base ← mergeInto (.dict s.default) (if own.truthy then own else .dict [])
  mergeInto base (if options.truthy then options else .dict [])

end IndexSettings

end SearchKit
