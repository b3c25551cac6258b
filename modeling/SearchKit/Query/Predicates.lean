import SearchKit.Schema.Model
import SearchKit.Value.Sequence

/-!
# Predicate sets

A predicate set describes a query without reference to a backend: a free text, filters, ranges,
sort orders and options.  It is refined step by step; filters keep the order in which their
fields were first named, and the last word on a field counts.

* `PredicateSet`: the description, with `PredicateSet.toValue` and `PredicateSet.ofValue?`.
* `Refinement`: a step, and `Refinement.writing`: what it reads and writes, in its order.
* `PredicateSet.refine`: the set after a step, with its fault if it fails.
-/

namespace SearchKit

/-- The direction of a sort order. -/
inductive SortDirection where
  | ascending
  | descending
  deriving DecidableEq, Repr, Inhabited

/-- The name of a direction. -/
def SortDirection.name : SortDirection → String
  | ascending => "asc"
  | descending => "desc"

/-- The direction of a name in any case. -/
def SortDirection.ofName? (name : String) : Option SortDirection :=
  match String.ofList (name.toList.map Char.toLower) with
  | "asc" => some ascending
  | "desc" => some descending
  | _ => none

/-- One field to sort on. -/
structure SortOrder where
  /-- The field. -/
  field : String
  /-- The direction. -/
  direction : SortDirection
  deriving DecidableEq, Repr, Inhabited

/-- Inclusive bounds; a null bound is open. -/
structure RangeBound where
  /-- The lower bound. -/
  gte : Value
  /-- The upper bound. -/
  lte : Value
  deriving Inhabited, Repr

/-- A query description.  The entries of a set come from data of declared shape or from
refinements, which do not check every value; so some fields hold any value. -/
structure PredicateSet where
  /-- The free text. -/
  query : String := ""
  /-- The equality filters. -/
  wheres : Entries := []
  /-- The set filters: the field has one of the values. -/
  whereIns : Assoc (List Value) := []
  /-- The exclusion filters: the field has none of the values. -/
  whereNotIns : Assoc (List Value) := []
  /-- The range filters. -/
  ranges : Assoc RangeBound := []
  /-- The sort orders. -/
  orders : List SortOrder := []
  /-- The greatest count of hits. -/
  limit : Value := .null
  /-- The count of hits to skip. -/
  offset : Value := .int 0
  /-- The field whose distinct values are wanted. -/
  distinctField : Value := .null
  /-- The collection to search instead of the default. -/
  index : Value := .null
  /-- Options for the backend, put into the request as they are. -/
  options : Entries := []
  /-- A search callback of the application in place of the search itself. -/
  callback : Value := .null
  /-- The record source that the query is bound to. -/
  source : Value := .null
  deriving Inhabited, Repr

/-! ### Structured data -/

/-- A sort order as structured data. -/
def SortOrder.toValue (o : SortOrder) : Value :=
  .model .sortOrder [("field", .str o.field), ("direction", .str o.direction.name)]

/-- The sort order of structured data. -/
def SortOrder.ofValue? : Value → Option SortOrder
  | .model .sortOrder [(_, .str field), (_, .str direction)] =>
    (SortDirection.ofName? direction).map fun d => ⟨field, d⟩
  | _ => none

/-- Bounds as structured data. -/
def RangeBound.toValue (b : RangeBound) : Value :=
  .model .rangeBound [("gte", b.gte), ("lte", b.lte)]

/-- The bounds of structured data. -/
def RangeBound.ofValue? : Value → Option RangeBound
  | .model .rangeBound [(_, gte), (_, lte)] => some ⟨gte, lte⟩
  | _ => none

/-- The bounds that are given, under their names. -/
def RangeBound.document (b : RangeBound) : Entries :=
  (if b.gte.isNull then [] else [(.str "gte", b.gte)]) ++
    (if b.lte.isNull then [] else [(.str "lte", b.lte)])

namespace PredicateSet

/-- A predicate set as structured data. -/
def toValue (p : PredicateSet) : Value := .model .predicateSet [
  ("query", .str p.query),
  ("wheres", .dict p.wheres),
  ("where_ins", .dict (p.whereIns.map fun e => (e.1, .list e.2))),
  ("where_not_ins", .dict (p.whereNotIns.map fun e => (e.1, .list e.2))),
  ("ranges", .dict (p.ranges.map fun e => (e.1, e.2.toValue))),
  ("orders", .list (p.orders.map SortOrder.toValue)),
  ("limit", p.limit),
  ("offset", p.offset),
  ("distinct_field", p.distinctField),
  ("index", p.index),
  ("options", .dict p.options),
  ("callback", p.callback),
  ("source", p.source)]

/-- Value lists under keys. -/
def listsOf? (es : Entries) : Option (Assoc (List Value)) :=
  es.mapM fun e => e.2.asList?.map fun xs => (e.1, xs)

/-- The predicate set of structured data. -/
def ofValue? : Value → Option PredicateSet
  | .model .predicateSet [
      (_, .str query), (_, .dict wheres), (_, .dict whereIns), (_, .dict whereNotIns),
      (_, .dict ranges), (_, .list orders), (_, limit), (_, offset), (_, distinctField),
      (_, index), (_, .dict options), (_, callback), (_, source)] => do
    let whereIns ← listsOf? whereIns
    let whereNotIns ← listsOf? whereNotIns
    let ranges ← ranges.mapM fun e => (RangeBound.ofValue? e.2).map fun b => (e.1, b)
    let orders ← orders.mapM SortOrder.ofValue?
    some {
      query, wheres, whereIns, whereNotIns, ranges, orders, limit, offset, distinctField, index,
      options, callback, source }
  | _ => none

end PredicateSet

/-! ### Refinements -/

/-- A step of a query description. -/
inductive Refinement where
  /-- An equality filter. -/
  | filter (field value : Value)
  /-- A set filter. -/
  | oneOf (field values : Value)
  /-- An exclusion filter. -/
  | noneOf (field values : Value)
  /-- A range given by a pair of bounds. -/
  | between (field values : Value)
  /-- A range with one or two bounds. -/
  | range (field gte lte : Value)
  /-- A further sort order. -/
  | orderBy (field direction : Value)
  /-- A greatest count of hits. -/
  | take (limit : Value)
  /-- A count of hits to skip. -/
  | skip (offset : Value)
  /-- A collection in place of the default. -/
  | within (index : Value)
  /-- A field whose distinct values are wanted. -/
  | distinctBy (field : Value)
  /-- Further options for the backend, as far as they could be read, and why they could not be read
  any further. -/
  | withOptions (options : Entries) (cut : Option Fault)
  /-- A search callback. -/
  | callback (callback : Value)
  deriving Inhabited, Repr

/-- Entries with one written under a key that has to be able to be one. -/
def putField (field : Value) (a : α) (es : Assoc α) : Except Fault (Assoc α) :=
  if field.hashable then .ok (es.set field a) else .error .wrongType

/-- A sort order of a field.  The direction is looked at before the field. -/
def SortOrder.make (field direction : Value) : Except Fault SortOrder :=
  match direction with
  | .str given => match SortDirection.ofName? given with
    | none => .error (.malformed (.direction given))
    | some d => match field with
      | .str field => .ok ⟨field, d⟩
      | _ => .error (.invalid [⟨[.key "field"], .notString⟩])
  | _ => .error .noPart

/-- The writing of a predicate set, step by step.  What is written before a fault stays. -/
abbrev Writing := ExceptT Fault (StateM PredicateSet) Unit

/-- A range written under its field. -/
def writeRange (field : Value) (bound : RangeBound) : Writing := do
  let ranges ← putField field bound (← get).ranges
  modify fun p => { p with ranges }

/-- The steps of a refinement. -/
def Refinement.writing : Refinement → Writing
  | .filter field value => do
    let wheres ← putField field value (← get).wheres
    modify fun p => { p with wheres }
  | .oneOf field values => do
    let xs ← values.items
    let whereIns ← putField field xs (← get).whereIns
    modify fun p => { p with whereIns }
  | .noneOf field values => do
    let xs ← values.items
    let whereNotIns ← putField field xs (← get).whereNotIns
    modify fun p => { p with whereNotIns }
  | .between field values => do
    match ← values.items with
    | [gte, lte] => writeRange field ⟨gte, lte⟩
    | given =>
      let texts ← (given.mapM Value.spell : Except Fault (List String))
      throw (.malformed (.notPair texts))
  | .range field gte lte => do
    if gte.isNull && lte.isNull then throw (.malformed (.unbounded (← field.spell)))
    writeRange field ⟨gte, lte⟩
  | .orderBy field direction => do
    let order ← SortOrder.make field direction
    modify fun p => { p with orders := p.orders ++ [order] }
  | .take limit => modify fun p => { p with limit }
  | .skip offset => modify fun p => { p with offset }
  | .within index => modify fun p => { p with index }
  | .distinctBy field => modify fun p => { p with distinctField := field }
  | .callback given => modify fun p => { p with callback := given }
  | .withOptions options cut => do
    modify fun p => { p with options := p.options.update options }
    match cut with
    | none => return ()
    | some fault => throw fault

namespace PredicateSet

/-- The set after a writing, and the fault if it fails. -/
def after (p : PredicateSet) (w : Writing) : PredicateSet × Option Fault :=
  match w.run.run p with
  | (.ok (), q) => (q, none)
  | (.error fault, q) => (q, some fault)

/-- The set after a refinement, and the fault if it fails. -/
def refine (p : PredicateSet) (r : Refinement) : PredicateSet × Option Fault := p.after r.writing

end PredicateSet

end SearchKit
