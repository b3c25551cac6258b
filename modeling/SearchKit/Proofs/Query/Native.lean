import SearchKit.Proofs.Session.Settling
import SearchKit.Query.Compiled

/-!
# Native forms of compiled queries

The native form of a compiled query holds its clauses in a boolean node, each slot under its name
unless it is empty.  The clauses that should hold are the exception: they stand in the node where a
least count of them is set, whether or not there are any.  So what is read from the node is the
query without the clauses that nothing counts.

* `CompiledQuery.field?_node` : the node slot by slot.
* `CompiledQuery.model_node` : the query that is read from a node.
* `CompiledQuery.native_faithful` : **the native form of a query**; it drops no clause unless there
  are clauses that should hold without a least count, as in `CompiledQuery.native_drops_uncounted`.
* `PredicateSet.model_node_compileWith` : nothing that is compiled is dropped.
-/

namespace SearchKit

theorem isObject_single (name : String) (v : Value) : (single name v).IsObject :=
  ⟨_, rfl, by simp⟩

namespace CompiledQuery

variable {q : CompiledQuery} {clauses : List Value}

/-! ### The node -/

/-- The clauses of a slot as a node holds them, nothing where there are none. -/
def given (clauses : List Value) : Option Value :=
  if clauses.isEmpty then none else some (.list clauses)

theorem getD_given (clauses : List Value) : (given clauses).getD (.list []) = .list clauses := by
  cases clauses <;> rfl

theorem get?_slot (name other : String) (clauses : List Value) :
    Assoc.get? (.str other) (slot name clauses) = if name = other then given clauses else none := by
  unfold slot given
  cases clauses with
  | nil => simp
  | cons c cs => simp [Assoc.get?_cons, beq_iff_eq]

/-- The node slot by slot.  The clauses that should hold come with their least count. -/
theorem field?_node (q : CompiledQuery) :
    q.node.field? "must" = given q.must ∧ q.node.field? "filter" = given q.filter ∧
      q.node.field? "must_not" = given q.mustNot ∧
      q.node.field? "should" = q.minimumShouldMatch.map (fun _ => .list q.should) ∧
      q.node.field? "minimum_should_match" = q.minimumShouldMatch.map .int := by
  simp only [node, Assoc.field?, Assoc.get?_append, get?_slot]
  cases q.minimumShouldMatch <;> simp [Assoc.get?_cons]

theorem native_eq_empty_iff (q : CompiledQuery) : q.native = .dict [] ↔ q.isEmpty = true := by
  unfold native
  split <;> simp_all [single]

/-! ### What is read from a node -/

/-- Every clause is a map with text keys. -/
structure Declared (q : CompiledQuery) : Prop where
  /-- The clauses that must hold. -/
  must : ∀ c ∈ q.must, c.IsObject
  /-- The clauses that filter. -/
  filter : ∀ c ∈ q.filter, c.IsObject
  /-- The clauses of which some should hold. -/
  should : ∀ c ∈ q.should, c.IsObject
  /-- The clauses that must not hold. -/
  mustNot : ∀ c ∈ q.mustNot, c.IsObject

theorem ofValue?_toValue (q : CompiledQuery) : ofValue? q.toValue = some q := by
  obtain ⟨must, filter, should, mustNot, least⟩ := q
  cases least <;> rfl

theorem toValue_inj {q q' : CompiledQuery} : q.toValue = q'.toValue ↔ q = q' := by
  refine ⟨fun h => ?_, congrArg toValue⟩
  have hread := ofValue?_toValue q
  rw [h, ofValue?_toValue] at hread
  exact (Option.some.inj hread).symm

/-- The query without the clauses that should hold, unless a least count of them is set. -/
def counted (q : CompiledQuery) : CompiledQuery :=
  { q with should := if q.minimumShouldMatch.isSome then q.should else [] }

theorem counted_eq_iff (q : CompiledQuery) :
    q.counted = q ↔ (q.minimumShouldMatch = none → q.should = []) := by
  obtain ⟨must, filter, should, mustNot, least⟩ := q
  cases least <;> simp [counted, eq_comm]

theorem Declared.counted (h : q.Declared) : q.counted.Declared := by
  refine ⟨h.must, h.filter, fun c hc => ?_, h.mustNot⟩
  rw [CompiledQuery.counted] at hc
  split at hc
  · exact h.should c hc
  · cases hc

theorem settleShape_slot {name : String} {es : Entries} {v : Value}
    (hslot : (es.field? name).getD (.list []) = .list clauses)
    (hclauses : ∀ c ∈ clauses, c.IsObject) (hv : es.field? name = some v) :
    settleShape (.listOf (.dictOf .any)) v = pure v := by
  rw [hv] at hslot
  obtain rfl : v = .list clauses := hslot
  refine settleShape_listOf fun c hc => ?_
  obtain ⟨es, rfl, -⟩ := hclauses c hc
  exact settleShape_dictOf_any es

theorem checkFields_slot {name : String} {rest : List (String × Shape × Option Value)}
    {es : Entries} {fields : Fields} (hslot : (es.field? name).getD (.list []) = .list clauses)
    (hclauses : ∀ c ∈ clauses, c.IsObject) (hrest : Shape.checkFields rest es = .ok fields) :
    Shape.checkFields (listField name (.dictOf .any) :: rest) es =
      .ok ((name, .list clauses) :: fields) := by
  have hcheck : (Shape.listOf (.dictOf .any)).check (.list clauses) = .ok (.list clauses) :=
    Shape.check_listOf fun c hc => Shape.check_dictOf_any_iff.2 ⟨hclauses c hc, rfl⟩
  have hempty : (Shape.listOf (.dictOf .any)).check (.list []) = .ok (.list []) :=
    Shape.check_listOf (by simp)
  exact (Shape.checkFields_fallback_iff hempty).2 ⟨_, _, hslot ▸ hcheck, hrest, rfl⟩

/-- What is read from a node are the clauses that it holds. -/
theorem model_node (h : q.Declared) :
    model .compiledQuery (.dict q.node) = pure q.counted.toValue := by
  obtain ⟨hmust, hfilter, hmustNot, hshould, hleast⟩ := field?_node q
  -- a slot that is absent is read as its default, the empty list
  replace hmust := (congrArg (·.getD (.list [])) hmust).trans (getD_given _)
  replace hfilter := (congrArg (·.getD (.list [])) hfilter).trans (getD_given _)
  replace hmustNot := (congrArg (·.getD (.list [])) hmustNot).trans (getD_given _)
  replace hshould : (q.node.field? "should").getD (.list []) = .list q.counted.should := by
    rw [hshould, counted]
    cases q.minimumShouldMatch <;> rfl
  have hsettled : settleShape (ModelKind.shape .compiledQuery) (.dict q.node) =
      pure (.dict q.node) := by
    refine settleShape_object fun f hf v hv => ?_
    simp only [List.mem_cons, List.not_mem_nil, or_false] at hf
    rcases hf with rfl | rfl | rfl | rfl | rfl
    · exact settleShape_slot hmust h.must hv
    · exact settleShape_slot hfilter h.filter hv
    · exact settleShape_slot hshould h.counted.should hv
    · exact settleShape_slot hmustNot h.mustNot hv
    · exact (settleShape_optional _ _).trans (settleShape_int _)
  have hcount : Shape.checkFields [optionalField "minimum_should_match" .int] q.node =
      .ok [("minimum_should_match", (q.minimumShouldMatch.map Value.int).getD .null)] := by
    have hnull : (Shape.optional .int).check .null = .ok .null :=
      Shape.check_optional_iff.2 (.inl ⟨rfl, rfl⟩)
    refine (Shape.checkFields_fallback_iff hnull).2 ⟨_, [], ?_, Shape.checkFields_nil_iff.2 rfl, rfl⟩
    rw [hleast]
    cases q.minimumShouldMatch <;> simp [Shape.check, Shape.checkInt]
  have hvalue : ModelKind.ofValue .compiledQuery (.dict q.node) = .ok q.counted.toValue :=
    ModelKind.ofValue_eq_ok_iff.2 <| Shape.check_object_iff.2 ⟨_, checkFields_slot hmust h.must <|
      checkFields_slot hfilter h.filter <| checkFields_slot hshould h.counted.should <|
        checkFields_slot hmustNot h.mustNot hcount, rfl⟩
  rw [model_of_settled hsettled, hvalue]
  rfl

/-- **The native form of a query**: it is empty only for a query without clauses and without a least
count, and else its node holds the slots that are not empty, and the clauses that should hold with
their least count.  It can be read back unless there are clauses that should hold without one. -/
theorem native_faithful (h : q.Declared) (s : Session) :
    (q.native = .dict [] ↔ q.isEmpty = true) ∧
      (q.isEmpty = false → ∃ node : Entries, q.native = single "bool" (.dict node) ∧
        node.field? "must" = given q.must ∧ node.field? "filter" = given q.filter ∧
        node.field? "must_not" = given q.mustNot ∧
        node.field? "should" = q.minimumShouldMatch.map (fun _ => .list q.should) ∧
        node.field? "minimum_should_match" = q.minimumShouldMatch.map .int ∧
        (model .compiledQuery (.dict node)).outcome s = (.ok q.counted.toValue, s) ∧
        ((model .compiledQuery (.dict node)).outcome s = (.ok q.toValue, s) ↔
          (q.minimumShouldMatch = none → q.should = []))) := by
  refine ⟨native_eq_empty_iff q, fun hempty => ⟨q.node, ?_, ?_⟩⟩
  · rw [native, hempty]
    rfl
  · obtain ⟨hmust, hfilter, hmustNot, hshould, hleast⟩ := field?_node q
    have hread : (model .compiledQuery (.dict q.node)).outcome s = (.ok q.counted.toValue, s) := by
      rw [model_node h]
      rfl
    refine ⟨hmust, hfilter, hmustNot, hshould, hleast, hread, ?_⟩
    rw [hread, Prod.mk.injEq, Except.ok.injEq, toValue_inj, counted_eq_iff]
    exact and_iff_left rfl

/-- Clauses that should hold are read back with their least count. -/
theorem native_faithful_of_counted_clause :
    let q : CompiledQuery :=
      { should := [termClause (.str "a") (.int 1)], minimumShouldMatch := some 1 }
    ∃ node : Entries, q.native = single "bool" (.dict node) ∧
      node.field? "should" = some (.list [termClause (.str "a") (.int 1)]) ∧
      (model .compiledQuery (.dict node)).outcome {} = (.ok q.toValue, {}) := by
  intro q
  have hclause : (termClause (.str "a") (.int 1)).IsObject := isObject_single _ _
  have hq : q.Declared := ⟨by simp [q], by simp [q], by simpa [q] using hclause, by simp [q]⟩
  obtain ⟨node, hnative, -, -, -, hshould, -, -, hread⟩ := (native_faithful hq {}).2 rfl
  exact ⟨node, hnative, hshould, hread.2 fun hnone => by cases hnone⟩

/-- A clause that should hold and that nothing counts is not empty and is not in the native form,
so the empty query is read from it. -/
theorem native_drops_uncounted :
    let q : CompiledQuery := { should := [termClause (.str "a") (.int 1)] }
    q.Declared ∧ q.isEmpty = false ∧ q.native = single "bool" (.dict []) ∧
      (model .compiledQuery (.dict [])).outcome {} = (.ok (toValue {}), {}) ∧
      toValue {} ≠ q.toValue := by
  intro q
  have hclause : (termClause (.str "a") (.int 1)).IsObject := isObject_single _ _
  have hq : q.Declared := ⟨by simp [q], by simp [q], by simpa [q] using hclause, by simp [q]⟩
  refine ⟨hq, rfl, rfl, ?_, ?_⟩
  · exact congrArg (·.outcome {}) (model_node hq)
  · rw [ne_eq, toValue_inj]
    intro h
    cases congrArg CompiledQuery.should h

end CompiledQuery

/-! ### Compiled queries -/

namespace PredicateSet

variable (p : PredicateSet) (fields : List Value)

theorem declared_compileWith : (p.compileWith fields).Declared where
  must := by
    intro c hc
    simp only [compileWith] at hc
    split at hc
    · cases hc
    · rw [List.mem_singleton.1 hc]
      exact isObject_single _ _
  filter := by
    intro c hc
    simp only [compileWith, filterClauses] at hc
    split at hc
    · cases hc
    · rcases List.mem_append.1 hc with hc | hc <;> obtain ⟨e, -, rfl⟩ := List.mem_map.1 hc <;>
        exact isObject_single _ _
  should := by
    intro c hc
    obtain ⟨e, -, hc⟩ := List.mem_flatMap.1 hc
    obtain ⟨v, -, rfl⟩ := List.mem_map.1 hc
    exact isObject_single _ _
  mustNot := by
    intro c hc
    obtain ⟨e, -, rfl⟩ := List.mem_map.1 hc
    exact isObject_single _ _

theorem counted_compileWith : (p.compileWith fields).counted = p.compileWith fields := by
  rw [CompiledQuery.counted_eq_iff]
  intro hnone
  cases hins : p.whereIns with
  | nil => simp [compileWith, shouldClauses, hins]
  | cons e es => simp [compileWith, hins] at hnone

/-- Nothing that is compiled is dropped: the query can be read back from its node. -/
theorem model_node_compileWith :
    model .compiledQuery (.dict (p.compileWith fields).node) =
      pure (p.compileWith fields).toValue := by
  rw [CompiledQuery.model_node (p.declared_compileWith fields), counted_compileWith]

end PredicateSet

end SearchKit
