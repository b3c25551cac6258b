import SearchKit.Query.Predicates

/-!
# Compiled queries

A compiled query is a tree of clauses in the terms of the backend: clauses that must hold, that
filter, of which some should hold and that must not hold.

* `CompiledQuery`: the four slots and the least count of clauses that should hold.
* `CompiledQuery.native`: the document that is sent; empty slots are left out.
* `PredicateSet.compileWith`: the compiled query of a predicate set, with the names of the text
  fields.
* `PredicateSet.sortClauses`: its sort clauses.
-/

namespace SearchKit

/-- The field that marks a document as softly deleted. -/
def softDeletedField : String := "__soft_deleted"

/-- A boolean query tree. -/
structure CompiledQuery where
  /-- Clauses that must hold. -/
  must : List Value := []
  /-- Clauses that must hold and do not count for the rank. -/
  filter : List Value := []
  /-- Clauses of which some should hold. -/
  should : List Value := []
  /-- Clauses that must not hold. -/
  mustNot : List Value := []
  /-- The least count of clauses that should hold. -/
  minimumShouldMatch : Option Int := none
  deriving Inhabited, Repr

/-- A map with one text key. -/
def single (name : String) (v : Value) : Value := .dict [(.str name, v)]

namespace CompiledQuery

/-- A compiled query as structured data. -/
def toValue (q : CompiledQuery) : Value := .model .compiledQuery [
  ("must", .list q.must), ("filter", .list q.filter), ("should", .list q.should),
  ("must_not", .list q.mustNot),
  ("minimum_should_match", (q.minimumShouldMatch.map Value.int).getD .null)]

/-- The compiled query of structured data. -/
def ofValue? : Value → Option CompiledQuery
  | .model .compiledQuery [
      (_, .list must), (_, .list filter), (_, .list should), (_, .list mustNot), (_, least)] =>
    match least with
    | .null => some ⟨must, filter, should, mustNot, none⟩
    | .int n => some ⟨must, filter, should, mustNot, some n⟩
    | _ => none
  | _ => none

/-- The query has no clause at all. -/
def isEmpty (q : CompiledQuery) : Bool :=
  q.must.isEmpty && q.filter.isEmpty && q.should.isEmpty && q.mustNot.isEmpty &&
    q.minimumShouldMatch.isNone

/-- A slot under its name, unless it is empty. -/
def slot (name : String) (clauses : List Value) : Entries :=
  if clauses.isEmpty then [] else [(.str name, .list clauses)]

/-- The node of a query with clauses. -/
def node (q : CompiledQuery) : Entries :=
  slot "must" q.must ++ slot "filter" q.filter ++ slot "must_not" q.mustNot ++
    match q.minimumShouldMatch with
    | none => []
    | some n => [(.str "minimum_should_match", .int n), (.str "should", .list q.should)]

/-- The document that is sent for a query; a query without clauses has an empty one. -/
def native (q : CompiledQuery) : Value :=
  if q.isEmpty then .dict [] else single "bool" (.dict q.node)

end CompiledQuery

/-! ### Clauses -/

/-- The clause that some value of a field equals a value. -/
def termClause (field value : Value) : Value := single "term" (.dict [(field, value)])

/-- The clause that some value of a field is among the values. -/
def termsClause (field : Value) (values : List Value) : Value :=
  single "terms" (.dict [(field, .list values)])

/-- The clause that some value of a field lies within bounds. -/
def rangeClause (field : Value) (bound : RangeBound) : Value :=
  single "range" (.dict [(field, .dict bound.document)])

/-- The clause that the text fields match a free text. -/
def textClause (query : String) (fields : List Value) : Value :=
  single "simple_query_string" (Fields.toValue [
    ("query", .str query), ("fields", .list fields), ("default_operator", .str "and")])

namespace PredicateSet

/-- The equality filters with the one on the mark of soft deletion in front: softly deleted
documents are left out unless the filters name the mark themselves. -/
def markedWheres (p : PredicateSet) : Entries :=
  Assoc.update [(.str softDeletedField, .int 0)] p.wheres

/-- The filter clauses: none without equality filters and ranges. -/
def filterClauses (p : PredicateSet) : List Value :=
  if p.wheres.isEmpty && p.ranges.isEmpty then []
  else
    p.markedWheres.map (fun e => termClause e.1 e.2) ++
      p.ranges.map fun e => rangeClause e.1 e.2

/-- The clauses of the set filters, one for each listed value. -/
def shouldClauses (p : PredicateSet) : List Value :=
  p.whereIns.flatMap fun e => e.2.map (termClause e.1)

/-- The compiled query of a predicate set, with the names of the text fields. -/
def compileWith (p : PredicateSet) (fields : List Value) : CompiledQuery where
  must := if p.query = "" then [] else [textClause p.query fields]
  filter := p.filterClauses
  should := p.shouldClauses
  mustNot := p.whereNotIns.map fun e => termsClause e.1 e.2
  minimumShouldMatch := if p.whereIns.isEmpty then none else some p.whereIns.length

/-- The sort clauses, one for each order. -/
def sortClauses (p : PredicateSet) : List Value :=
  p.orders.map fun o => single o.field (single "order" (.str o.direction.name))

end PredicateSet

end SearchKit
