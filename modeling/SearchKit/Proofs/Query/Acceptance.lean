import SearchKit.Proofs.Query.Native
import SearchKit.Query.Execution

/-!
# Which documents a native query accepts

The search backend reads the native form of a compiled query as a boolean node over the values
that a document has in its fields.  What belongs to the backend alone is a parameter
(`Backend`): when two values are equal, how values are ordered, and which documents match a free
text.

* `Document`: the values of each field; a document that is written holds one value in each.
* `Backend.accepts` : the reading of a native document.  The empty one accepts everything; a
  boolean node accepts when all clauses under `must` and `filter` hold, none under `must_not`
  does, and, where a least count is given, at least so many clauses under `should`, counted one
  by one.
* `Backend.accepts_native` : the same in terms of the slots of the compiled query; a slot that is
  left out because it is empty asks for nothing.
-/

namespace SearchKit

/-- A document as the backend sees it: the values of each field. -/
abbrev Document := Value → List Value

/-- The document of entries, with the value of an entry as the only value of its field. -/
def Document.ofEntries (es : Entries) : Document := fun field => (es.get? field).toList

/-- No field of the document holds more than one value. -/
def Document.SingleValued (d : Document) : Prop := ∀ field, (d field).length ≤ 1

theorem Document.SingleValued.eq {d : Document} (hd : d.SingleValued) {field x y : Value}
    (hx : x ∈ d field) (hy : y ∈ d field) : x = y := by
  have := hd field
  match h : d field with
  | [] => simp [h] at hx
  | [z] => simp_all
  | _ :: _ :: _ => simp [h] at this

theorem Document.singleValued_ofEntries (es : Entries) : (Document.ofEntries es).SingleValued := by
  intro field
  unfold ofEntries
  cases es.get? field <;> simp

/-- What a search backend decides by itself. -/
structure Backend where
  /-- Two values are equal. -/
  same : Value → Value → Bool
  /-- A value is not above another one. -/
  atMost : Value → Value → Bool
  /-- A document matches a free text in some of its fields. -/
  matchesText : String → List Value → Document → Bool
  /-- A value is equal to itself. -/
  same_refl : ∀ x, same x x = true
  /-- Equality does not depend on the side. -/
  same_symm : ∀ x y, same x y = true → same y x = true
  /-- Values that are equal to one value are equal. -/
  same_trans : ∀ x y z, same x y = true → same y z = true → same x z = true

open Classical in
/-- The backend that takes values as they are: equal ones are the same value, integers have their
order, and a text is found where it is the whole value of a field. -/
noncomputable def Backend.literal : Backend where
  same x y := decide (x = y)
  atMost
    | .int m, .int n => decide (m ≤ n)
    | _, _ => false
  matchesText text fields d := fields.any fun field => decide (.str text ∈ d field)
  same_refl := by simp
  same_symm := by simp [eq_comm]
  same_trans := by simp_all

namespace Backend

variable (B : Backend) (d : Document)

/-! ### Clauses -/

/-- Some value of a field equals a value. -/
def has (field value : Value) : Bool := (d field).any fun x => B.same x value

/-- The value lies within those bounds that are present. -/
def within (bounds : Entries) (x : Value) : Bool :=
  (match Assoc.field? "gte" bounds with
    | some low => B.atMost low x
    | none => true) &&
  (match Assoc.field? "lte" bounds with
    | some high => B.atMost x high
    | none => true)

/-- A document matches the body of a text clause. -/
def textHolds (body : Entries) : Bool :=
  match Assoc.field? "query" body, Assoc.field? "fields" body with
  | some (.str query), some (.list fields) => B.matchesText query fields d
  | _, _ => false

/-- A clause of a name holds; unknown clauses never do. -/
def clauseHolds (name : String) (body : Value) : Bool :=
  match name, body with
  | "term", .dict [(field, value)] => B.has d field value
  | "terms", .dict [(field, .list values)] => values.any fun v => B.has d field v
  | "range", .dict [(field, .dict bounds)] => (d field).any fun x => B.within bounds x
  | "simple_query_string", .dict body => B.textHolds d body
  | _, _ => false

/-- A clause holds. -/
def holds (clause : Value) : Bool :=
  match clause with
  | .dict [(.str name, body)] => B.clauseHolds d name body
  | _ => false

/-! ### Boolean nodes -/

/-- The clauses in a slot of a node, none when the slot is absent. -/
def clausesIn (node : Entries) (name : String) : List Value :=
  match Assoc.field? name node with
  | some (.list clauses) => clauses
  | _ => []

/-- Enough of the clauses that should hold do so, if their count is asked for. -/
def enoughHold (node : Entries) : Bool :=
  match Assoc.field? "minimum_should_match" node with
  | some (.int least) => decide (least ≤ (clausesIn node "should").countP (B.holds d))
  | some _ => false
  | none => true

/-- A boolean node accepts a document. -/
def nodeHolds (node : Entries) : Bool :=
  (clausesIn node "must").all (B.holds d) && (clausesIn node "filter").all (B.holds d) &&
    !(clausesIn node "must_not").any (B.holds d) && B.enoughHold d node

/-- A native query accepts a document. -/
def accepts (query : Value) : Bool :=
  match query with
  | .dict [] => true
  | .dict [(.str "bool", .dict node)] => B.nodeHolds d node
  | _ => false

/-! ### Reading what a query is compiled to -/

variable {B d}

theorem has_iff {field value : Value} :
    B.has d field value = true ↔ ∃ x ∈ d field, B.same x value = true := by
  simp [has]

theorem has_ofEntries_iff {es : Entries} {field value : Value} :
    B.has (Document.ofEntries es) field value = true ↔
      ∃ x, es.get? field = some x ∧ B.same x value = true := by
  simp [has_iff, Document.ofEntries]

theorem has_literal_iff {field value : Value} :
    Backend.literal.has d field value = true ↔ value ∈ d field := by
  rw [has_iff]
  simp [literal]

theorem holds_termClause (field value : Value) :
    B.holds d (termClause field value) = B.has d field value := rfl

theorem holds_termsClause (field : Value) (values : List Value) :
    B.holds d (termsClause field values) = values.any fun v => B.has d field v := rfl

theorem holds_rangeClause (field : Value) (bound : RangeBound) :
    B.holds d (rangeClause field bound) = (d field).any fun x => B.within bound.document x := rfl

theorem holds_textClause (query : String) (fields : List Value) :
    B.holds d (textClause query fields) = B.matchesText query fields d := rfl

theorem clausesIn_of_given {node : Entries} {name : String} {clauses : List Value}
    (h : node.field? name = CompiledQuery.given clauses) : clausesIn node name = clauses := by
  rw [clausesIn, h]
  cases clauses <;> rfl

theorem clausesIn_node (q : CompiledQuery) :
    clausesIn q.node "must" = q.must ∧ clausesIn q.node "filter" = q.filter ∧
      clausesIn q.node "must_not" = q.mustNot := by
  obtain ⟨hmust, hfilter, hmustNot, -⟩ := q.field?_node
  exact ⟨clausesIn_of_given hmust, clausesIn_of_given hfilter, clausesIn_of_given hmustNot⟩

theorem enoughHold_node (q : CompiledQuery) :
    B.enoughHold d q.node = true ↔
      ∀ n, q.minimumShouldMatch = some n → n ≤ q.should.countP (B.holds d) := by
  obtain ⟨-, -, -, hshould, hleast⟩ := q.field?_node
  rw [enoughHold, hleast, clausesIn, hshould]
  cases q.minimumShouldMatch <;> simp

/-- **A native query in terms of its slots.**  Slots that are left out of the native form ask for
nothing, and clauses that should hold are counted only where a least count is set. -/
theorem accepts_native (q : CompiledQuery) :
    B.accepts d q.native = true ↔
      (∀ c ∈ q.must, B.holds d c = true) ∧ (∀ c ∈ q.filter, B.holds d c = true) ∧
        (∀ c ∈ q.mustNot, B.holds d c = false) ∧
        ∀ n, q.minimumShouldMatch = some n → n ≤ q.should.countP (B.holds d) := by
  unfold CompiledQuery.native
  split
  · rename_i hempty
    simp only [CompiledQuery.isEmpty, Bool.and_eq_true, List.isEmpty_iff,
      Option.isNone_iff_eq_none] at hempty
    obtain ⟨⟨⟨⟨hmust, hfilter⟩, -⟩, hmustNot⟩, hleast⟩ := hempty
    simp [hmust, hfilter, hmustNot, hleast, accepts]
  · obtain ⟨hmust, hfilter, hmustNot⟩ := clausesIn_node q
    change B.nodeHolds d q.node = true ↔ _
    rw [nodeHolds, hmust, hfilter, hmustNot, Bool.and_eq_true, enoughHold_node]
    simp [and_assoc]

end Backend

end SearchKit
