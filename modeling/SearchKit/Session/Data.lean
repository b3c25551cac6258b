import SearchKit.Schema.Model
import SearchKit.Session.Sequence

/-!
# Structured data within a session

Where structured data declares a list, a sequence may stand for it and is read to its end.

* `settleShape`: a value with every sequence settled that stands where a list is declared.
* `model`: structured data from a value of a session.
-/

namespace SearchKit

/-- The entries of a map with one step run on each value. -/
def mapEntries (f : Value → Act Value) (es : Entries) : Act Entries :=
  es.mapM fun e => do return (e.1, ← f e.2)

/-- A value, with a sequence read to its end into a list; a sequence that cannot be read stays as
it is. -/
def settleList (v : Value) : Act Value := do
  match ← caught (settle v) with
  | .ok v => return v
  | .error _ => return v

mutual

/-- A value with every sequence settled that stands where its shape declares a list. -/
def settleShape : Shape → Value → Act Value
  | .optional s, v => settleShape s v
  | .listOf s, v => do
    match ← settleList v with
    | .list xs => return .list (← xs.mapM (settleShape s))
    | v => return v
  | .dictOf s, v => match v with
    | .dict es => do return .dict (← mapEntries (settleShape s) es)
    | v => return v
  | .object _ fields, v => match v with
    | .dict es => do return .dict (← settleFields fields es)
    | v => return v
  | _, v => return v

/-- The entries of a map with the values of declared fields settled. -/
def settleFields : List (String × Shape × Option Value) → Entries → Act Entries
  | [], es => return es
  | (name, s, _) :: rest, es => do
    let es ← match es.field? name with
      | some v => do pure (es.set (.str name) (← settleShape s v))
      | none => pure es
    settleFields rest es

end

/-- Structured data of a kind from a value. -/
def model (kind : ModelKind) (v : Value) : Act Value := do
  return ← kind.ofValue (← settleShape kind.shape v)

end SearchKit
