import SearchKit.Proofs.Query.Calls
import SearchKit.Proofs.Query.Meaning

/-!
# Ranges without bounds

A range is written by two refinements with different checks.  One takes two bounds and looks whether
one of them is given; the other takes a pair and only looks whether it is one.  So a range without
bounds is refused, unless it is given as a pair of nulls; then its clause is empty.

* `RangeBound.bounded_iff` : a clause of a range carries a bound when one is given.
* `Refinement.bounded_of_refined` : what goes well gives a bound or is a pair of nulls.
* `PredicateSet.filter_bounded` : **the ranges of a compiled query** and the refusal of those
  without bounds.
-/

namespace SearchKit

variable {p q : PredicateSet} {r : Refinement}

/-! ### Bounds that are given -/

/-- The clause of a range carries one of the bounds. -/
def RangeBound.Bounded (b : RangeBound) : Prop :=
  Assoc.field? "gte" b.document ≠ none ∨ Assoc.field? "lte" b.document ≠ none

theorem RangeBound.bounded_iff {b : RangeBound} : b.Bounded ↔ b.gte ≠ .null ∨ b.lte ≠ .null := by
  obtain ⟨gte, lte⟩ := b
  rw [ne_eq, ne_eq, ← Value.isNull_iff, ← Value.isNull_iff]
  cases hg : gte.isNull <;> cases hl : lte.isNull <;>
    simp [Bounded, document, hg, hl, Assoc.field?, Assoc.get?_cons]

namespace Refinement

/-- A range that is given without a bound: by two bounds that are both null, or by values that are
all null, if there are any. -/
inductive Unbounded : Refinement → Prop
  | range (field : Value) : Unbounded (.range field .null .null)
  | between {field values : Value} {xs : List Value} (h : values.items? = some xs)
    (hnull : ∀ x ∈ xs, x = .null) : Unbounded (.between field values)

/-- A range of a field that is given as a pair of nulls. -/
def PairOfNulls (field : Value) (r : Refinement) : Prop :=
  ∃ values, r = .between field values ∧ values.items? = some [.null, .null]

theorem after_notPair {given : List Value} {texts : List String}
    (h : given.mapM Value.spell = .ok texts) (p : PredicateSet) :
    p.after (do
      let texts ← (given.mapM Value.spell : Except Fault (List String))
      throw (.malformed (.notPair texts))) = (p, some (.malformed (.notPair texts))) := by
  rw [h]
  rfl

/-- A range without bounds is refused, unless it is given as a pair of nulls.  Only a field that is
too long to be written is refused for another reason. -/
theorem refused_of_unbounded (h : r.Unbounded) (hpair : ∀ field, ¬ r.PairOfNulls field)
    (p : PredicateSet) : ∃ fault, p.refine r = (p, some fault) ∧
      ((∃ m, fault = .malformed m) ∨
        fault = .misuse .badValue ∧ ∃ field, r.field? = some field ∧ field.hasText = false) := by
  cases h with
  | range field =>
    have hrefine : p.refine (.range field .null .null) =
        p.after (do throw (.malformed (.unbounded (← field.spell)))) := rfl
    rw [hrefine]
    cases htext : field.hasText with
    | true =>
      rw [Value.spell_of_hasText htext]
      exact ⟨.malformed (.unbounded field.text), rfl, .inl ⟨_, rfl⟩⟩
    | false =>
      rw [Value.spell_of_not_hasText htext]
      exact ⟨.misuse .badValue, rfl, .inr ⟨rfl, field, rfl, htext⟩⟩
  | @between field values xs hitems hnull =>
    have htexts : xs.mapM Value.spell = .ok (xs.map Value.text) :=
      Value.mapM_spell_eq_ok_iff.2 ⟨fun x hx => hnull x hx ▸ rfl, rfl⟩
    refine ⟨.malformed (.notPair (xs.map Value.text)), ?_, .inl ⟨_, rfl⟩⟩
    have hread : values.items = .ok xs := by rw [Value.items, hitems]
    simp only [PredicateSet.refine, writing, hread]
    rcases xs with _ | ⟨x, _ | ⟨y, _ | ⟨z, xs⟩⟩⟩
    · rfl
    · exact after_notPair htexts p
    · obtain rfl := hnull x (by simp)
      obtain rfl := hnull y (by simp)
      exact absurd ⟨values, rfl, hitems⟩ (hpair field)
    · exact after_notPair htexts p

/-- A range that goes well has a bound, or it is given as a pair of nulls. -/
theorem bounded_of_refined {field : Value} {b : RangeBound} (h : r.bounds? = some (field, b))
    (hwell : p.refine r = (q, none)) : b.Bounded ∨ r.PairOfNulls field := by
  by_cases hopen : b.gte = .null ∧ b.lte = .null
  · obtain ⟨gte, lte⟩ := b
    obtain ⟨rfl, rfl⟩ := hopen
    cases r with
    | between given values =>
      rw [bounds?] at h
      split at h
      · rename_i hitems
        cases h
        exact .inr ⟨values, rfl, hitems⟩
      · cases h
    | range given gte lte =>
      -- with both bounds open it would not have gone well
      cases h
      obtain ⟨fault, hrefused, -⟩ := refused_of_unbounded (.range field)
        (fun _ hpair => by obtain ⟨values, hother, -⟩ := hpair; cases hother) p
      rw [hrefused] at hwell
      cases hwell
    | _ => cases h
  · rw [RangeBound.bounded_iff]
    exact .inl (by tauto)

end Refinement

/-! ### The ranges of compiled queries -/

namespace PredicateSet

theorem clause_of_mem_filter {clause : Value} (h : clause ∈ p.filterClauses) :
    (∃ field value, clause = termClause field value) ∨
      ∃ e ∈ p.ranges, clause = rangeClause e.1 e.2 := by
  unfold filterClauses at h
  split at h
  · cases h
  · rcases List.mem_append.1 h with h | h
    · obtain ⟨e, -, rfl⟩ := List.mem_map.1 h
      exact .inl ⟨e.1, e.2, rfl⟩
    · obtain ⟨e, he, rfl⟩ := List.mem_map.1 h
      exact .inr ⟨e, he, rfl⟩

theorem bounded_of_extended {done : List Refinement} (h : Extended {} done q)
    (hdone : ∀ r ∈ done, ∃ p p' : PredicateSet, p.refine r = (p', none))
    {e : Value × RangeBound} (he : e ∈ q.ranges) :
    e.2.Bounded ∨ ∃ r ∈ done, ∃ field, (e.1 = field ∨ e.1.sameKey field = true) ∧
      r.PairOfNulls field := by
  rw [h.ranges] at he
  rcases Assoc.of_mem_update he with he | ⟨⟨field, b⟩, hf, hb, hkey⟩
  · cases he
  obtain ⟨r, hr, hbounds⟩ := List.mem_filterMap.1 hf
  obtain ⟨p, p', hwell⟩ := hdone r hr
  rw [hb]
  exact (Refinement.bounded_of_refined hbounds hwell).imp_right fun hpair =>
    ⟨r, hr, field, hkey, hpair⟩

/-- **The ranges of a compiled query.**  After any calls on an empty set every filter clause is the
clause of a value, or that of a range with a bound, or its field was given a pair of nulls as its
range by a call that went well.  A call for a range without bounds is refused and leaves the set as
it was, unless it gives a pair of nulls; it is refused as malformed, or because its field is too long
to be written. -/
theorem filter_bounded (calls : List RefiningCall) (s : Session) (fields : Value) :
    (∃ q done s', (afterCalls {} calls).outcome s = (.ok (q, done), s') ∧
      ∃ query, q.compile fields = pure query ∧
        ∀ clause ∈ query.filter,
          (∃ field value, clause = termClause field value) ∨
          ∃ field bound, clause = rangeClause field bound ∧
            (bound.Bounded ∨ ∃ r ∈ done, ∃ given,
              (field = given ∨ field.sameKey given = true) ∧ r.PairOfNulls given)) ∧
    ∀ (p : PredicateSet) (c : RefiningCall) (r : Refinement) (s s' : Session),
      c.refinement.outcome s = (.ok r, s') → r.Unbounded → (∀ field, ¬ r.PairOfNulls field) →
      ∃ fault, (p.afterCall c).outcome s = (.ok (p, .error fault), s') ∧
        ((∃ m, fault = .malformed m) ∨
          fault = .misuse .badValue ∧ ∃ field, r.field? = some field ∧ field.hasText = false) := by
  constructor
  · obtain ⟨q, well, s', hrun, -, hdone, hextended⟩ := afterCalls_extended {} calls s
    have hquery : q.query = "" := hextended.query
    have hwell : ∀ r ∈ well.map Prod.snd, ∃ p p' : PredicateSet, p.refine r = (p', none) :=
      List.forall_mem_map.2 fun call hcall => (hdone call hcall).2
    refine ⟨q, _, s', hrun, _, compile_of_query_empty hquery fields, fun clause h => ?_⟩
    refine (clause_of_mem_filter h).imp_right ?_
    rintro ⟨e, he, rfl⟩
    exact ⟨e.1, e.2, rfl, bounded_of_extended hextended hwell he⟩
  · intro p c r s s' hasked hopen hpair
    obtain ⟨fault, hrefused, hreason⟩ := Refinement.refused_of_unbounded hopen hpair p
    refine ⟨fault, ?_, hreason⟩
    rw [afterCall, Act.outcome_bind_ok (Act.outcome_caught _ _), hasked]
    simp only [hrefused]
    rfl

/-- A range is refused where both of its bounds are left out, and the range that its field has
stays. -/
theorem afterCall_of_open_range :
    let p : PredicateSet := { ranges := [(.str "price", ⟨.int 3, .null⟩)] }
    ∃ m, (p.afterCall ⟨"where_range", [.str "price"], []⟩).outcome {} =
      (.ok (p, .error (.malformed m)), {}) := by
  intro p
  have hpair : ∀ field, ¬ Refinement.PairOfNulls field (.range (.str "price") .null .null) := by
    rintro field ⟨values, hother, -⟩
    cases hother
  obtain ⟨fault, hcall, ⟨m, rfl⟩ | ⟨-, field, hfield, hlong⟩⟩ :=
    (filter_bounded [] {} .null).2 p ⟨"where_range", [.str "price"], []⟩
      (.range (.str "price") .null .null) {} {} rfl (.range _) hpair
  · exact ⟨m, hcall⟩
  · cases hfield
    simp at hlong

/-- A pair of nulls is taken as a range, whose clause is empty. -/
theorem filter_of_pair_of_nulls :
    ∃ q, ((afterCall {} ⟨"where_between", [.str "price", .list [.null, .null]], []⟩).outcome {}).1 =
        .ok (q, .ok (.between (.str "price") (.list [.null, .null]))) ∧
      q.compile .null = pure (q.compileWith []) ∧
      rangeClause (.str "price") ⟨.null, .null⟩ ∈ (q.compileWith []).filter ∧
      ¬ RangeBound.Bounded ⟨.null, .null⟩ := by
  refine ⟨_, rfl, compile_of_query_empty rfl _, List.mem_of_getLast? rfl, ?_⟩
  rw [RangeBound.bounded_iff]
  simp

end PredicateSet

end SearchKit
