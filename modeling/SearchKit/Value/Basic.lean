import SearchKit.Number.Binary64
import SearchKit.Value.Timestamp

/-!
# Values

The dynamic data that applications and the search backend exchange: documents, query options,
arguments of operations and the handles of the application's own objects.

* `Value`: a value.
* `Value.truthy`: a value counts as present when it is not empty, zero, false or null.
* `Value.sameKey`: equality of map keys, by which `1`, `1.0` and `true` are one key.
* `Assoc`: entries under keys in the order of their first writing, with `Assoc.get?`,
  `Assoc.set`, `Assoc.erase` and `Assoc.update`; the entries of a map are `Entries`.
* `Fields`: named fields in their order.
-/

namespace SearchKit

/-- The kinds of structured data that have declared fields. -/
inductive ModelKind where
  | context
  | operation
  | sortOrder
  | rangeBound
  | predicateSet
  | compiledQuery
  | indexOperation
  | deleteOperation
  | writeBatch
  | indexSettings
  | providerConfig
  | componentConfig
  | manifest
  | response
  deriving DecidableEq, Repr, Inhabited

/-- A dynamic value. -/
inductive Value where
  /-- The absent value. -/
  | null
  /-- A truth value. -/
  | bool (b : Bool)
  /-- An integer of any size. -/
  | int (n : Int)
  /-- A binary64 number. -/
  | float (x : Binary64)
  /-- A text. -/
  | str (s : String)
  /-- A day or a time. -/
  | timestamp (t : Timestamp)
  /-- A list. -/
  | list (xs : List Value)
  /-- A list of fixed length. -/
  | tuple (xs : List Value)
  /-- A list in the collection type of a record source. -/
  | collection (xs : List Value)
  /-- A map; its entries keep the order in which their keys were first written. -/
  | dict (entries : List (Value × Value))
  /-- Structured data, with its declared fields in their order. -/
  | model (kind : ModelKind) (fields : List (String × Value))
  /-- A record of the application, by its place among the known records; messages name it by
  its label. -/
  | record (id : Nat) (label : String)
  /-- An object of the application that answers for a key but is no record.  Two of them with one
  key are still two objects, told apart by their number. -/
  | keyed (id : Nat) (key : Value)
  /-- A record source of the application, by name. -/
  | source (name : String)
  /-- A search callback of the application, by name. -/
  | callback (name : String)
  /-- A sequence that can be read once, by its place among the open ones. -/
  | iterator (id : Nat)
  deriving Inhabited, Repr

namespace Value

/-- The value counts as present: it is none of null, false, zero and the empty containers. -/
def truthy : Value → Bool
  | null => false
  | bool b => b
  | int n => n ≠ 0
  | float x => !x.isZero
  | str s => s ≠ ""
  | list xs | tuple xs | collection xs => !xs.isEmpty
  | dict es => !es.isEmpty
  | _ => true

/-- The items of a list, of the plain type or of a source's collection type. -/
def asList? : Value → Option (List Value)
  | list xs | collection xs => some xs
  | _ => none

/-- The entries of a map. -/
def asDict? : Value → Option (List (Value × Value))
  | dict es => some es
  | _ => none

/-- The text of a text value. -/
def asStr? : Value → Option String
  | str s => some s
  | _ => none

/-- The value is absent. -/
def isNull : Value → Bool
  | null => true
  | _ => false

/-- The value is a map. -/
def isDict (v : Value) : Bool := v.asDict?.isSome

/-- The value is structured data. -/
def isModel : Value → Bool
  | .model .. => true
  | _ => false

/-- A number as an exact integer or a number between two integers. -/
def numeral? : Value → Option (Int ⊕ Binary64)
  | bool b => some (.inl (if b then 1 else 0))
  | int n => some (.inl n)
  | float x => some (match x.toInt? with | some n => .inl n | none => .inr x)
  | _ => none

/-- Equality of numbers of any type. -/
def sameNumeral : Int ⊕ Binary64 → Int ⊕ Binary64 → Bool
  | .inl m, .inl n => m == n
  | .inr x, .inr y => x.same y
  | _, _ => false

mutual

/-- Two values are the same key of a map.  Numbers are compared as numbers and tuples item by
item; a handle is the same key as itself. -/
def sameKey : Value → Value → Bool
  | null, null => true
  | str s, str t => s == t
  | tuple xs, tuple ys => sameKeys xs ys
  | record m _, record n _ => m == n
  | keyed m _, keyed n _ => m == n
  | timestamp s, timestamp t => s.same t
  | source s, source t => s == t
  | callback s, callback t => s == t
  | iterator m, iterator n => m == n
  | bool a, v => match numeral? v with
    | some y => sameNumeral (.inl (if a then 1 else 0)) y
    | none => false
  | int m, v => match numeral? v with
    | some y => sameNumeral (.inl m) y
    | none => false
  | float x, v => match numeral? v with
    | some y => sameNumeral (match x.toInt? with | some n => .inl n | none => .inr x) y
    | none => false
  | _, _ => false

/-- Two lists have the same keys at every place. -/
def sameKeys : List Value → List Value → Bool
  | [], [] => true
  | x :: xs, y :: ys => sameKey x y && sameKeys xs ys
  | _, _ => false

end

mutual

/-- The value can be a key of a map: it is no container that can change. -/
def hashable : Value → Bool
  | list _ | collection _ | dict _ | model .. => false
  | tuple xs => allHashable xs
  | _ => true

/-- Every value of a list can be a key. -/
def allHashable : List Value → Bool
  | [] => true
  | x :: xs => hashable x && allHashable xs

end

@[simp] theorem sameKey_str (s t : String) : sameKey (.str s) (.str t) = (s == t) := by
  simp [sameKey]

end Value

/-! ### Maps -/

/-- Entries under keys, in the order in which the keys were first written. -/
abbrev Assoc (α : Type) := List (Value × α)

namespace Assoc

variable {α : Type}

/-- The entry of a key. -/
def get? (key : Value) : Assoc α → Option α
  | [] => none
  | (k, a) :: rest => if k.sameKey key then some a else get? key rest

/-- An entry written at a key: in the place of the present one, else at the end. -/
def set (key : Value) (a : α) : Assoc α → Assoc α
  | [] => [(key, a)]
  | (k, b) :: rest => if k.sameKey key then (k, a) :: rest else (k, b) :: set key a rest

/-- The entries without a key. -/
def erase (key : Value) (es : Assoc α) : Assoc α :=
  es.filter fun e => !e.1.sameKey key

/-- The entries with every entry of another list written into them, in order. -/
def update (es other : Assoc α) : Assoc α :=
  other.foldl (fun acc e => acc.set e.1 e.2) es

/-- Entries from a list, a later one of the same key winning in the place of the earlier. -/
def ofList (es : Assoc α) : Assoc α := update [] es

/-- The entry of a text key. -/
abbrev field? (name : String) (es : Assoc α) : Option α := es.get? (.str name)

/-- The keys in order. -/
def keys (es : Assoc α) : List Value := es.map (·.1)

@[simp] theorem get?_nil (key : Value) : get? key ([] : Assoc α) = none := rfl

theorem update_cons (es : Assoc α) (e : Value × α) (other : Assoc α) :
    update es (e :: other) = update (es.set e.1 e.2) other := rfl

end Assoc

/-- The entries of a map. -/
abbrev Entries := Assoc Value

/-- Named fields in their order. -/
abbrev Fields := List (String × Value)

namespace Entries

/-- The entries of named fields. -/
def ofFields (fields : Fields) : Entries := fields.map fun f => (.str f.1, f.2)

/-- The entries as named fields, if every key is a text. -/
def toFields? (es : Entries) : Option Fields :=
  es.mapM fun e => e.1.asStr?.map fun name => (name, e.2)

end Entries

/-! ### Named fields -/

namespace Fields

/-- The value of a field. -/
def get? (name : String) (fields : Fields) : Option Value := List.lookup name fields

/-- The value of a field, null when it is absent. -/
def getD (name : String) (fields : Fields) : Value := (fields.get? name).getD .null

/-- The fields with one written: in its place when present, else at the end. -/
def set (name : String) (value : Value) : Fields → Fields
  | [] => [(name, value)]
  | (n, v) :: rest => if n = name then (n, value) :: rest else (n, v) :: set name value rest

/-- The fields without one. -/
def erase (name : String) (fields : Fields) : Fields := fields.filter fun f => f.1 != name

/-- The fields with others written into them, in order. -/
def update (fields other : Fields) : Fields :=
  other.foldl (fun acc f => acc.set f.1 f.2) fields

/-- The fields as a map value. -/
def toValue (fields : Fields) : Value := .dict (Entries.ofFields fields)

end Fields

end SearchKit
