import SearchKit.Proofs.Query.Meaning

/-!
# Repeated values in a set filter

The values of all set filters stand in one flat list of which as many have to hold as there are
set filters.  A value that is listed twice is counted twice, so it can stand in for a set filter
that the document misses.

* `Backend.hits_withoutRepetitions` : without its repetitions a list is hit once if it is hit at
  all.
* `PredicateSet.accepts_iff_withoutRepetitions_iff` : **when repetitions matter.**  Taking them
  out never lets a document in, and keeps one out exactly when the repeated hits of the list were
  needed to reach the count of the set filters.
-/

namespace SearchKit

variable {B : Backend} {d : Document}

/-! ### Lists without repetitions -/

/-- The values without their repetitions: the first of those that are equal is kept. -/
def Backend.withoutRepetitions (B : Backend) : List Value → List Value
  | [] => []
  | v :: vs => v :: (B.withoutRepetitions vs).filter fun w => !B.same v w

theorem Backend.pairwise_withoutRepetitions (B : Backend) (vs : List Value) :
    (B.withoutRepetitions vs).Pairwise fun v w => B.same v w = false := by
  induction vs with
  | nil => exact List.Pairwise.nil
  | cons v vs ih =>
    refine List.pairwise_cons.2 ⟨fun w hw => ?_, ih.filter _⟩
    simpa using (List.mem_filter.1 hw).2

theorem Backend.has_of_same {field v w : Value} (h : B.same v w = true)
    (hv : B.has d field v = true) : B.has d field w = true := by
  obtain ⟨x, hx, hxv⟩ := has_iff.1 hv
  exact has_iff.2 ⟨x, hx, B.same_trans x v w hxv h⟩

theorem Backend.exists_has_withoutRepetitions_iff {field : Value} {vs : List Value} :
    (∃ v ∈ B.withoutRepetitions vs, B.has d field v = true) ↔
      ∃ v ∈ vs, B.has d field v = true := by
  induction vs with
  | nil => simp [withoutRepetitions]
  | cons v vs ih =>
    rw [List.exists_mem_cons_iff, ← ih, withoutRepetitions, List.exists_mem_cons_iff]
    constructor
    · rintro (hv | ⟨w, hw, hhas⟩)
      · exact .inl hv
      · exact .inr ⟨w, (List.mem_filter.1 hw).1, hhas⟩
    · rintro (hv | ⟨w, hw, hhas⟩)
      · exact .inl hv
      · by_cases hsame : B.same v w = true
        · -- `w` is left out for `v`, which the field has too
          exact .inl (has_of_same (B.same_symm v w hsame) hhas)
        · exact .inr ⟨w, List.mem_filter.2 ⟨hw, by simpa using hsame⟩, hhas⟩

theorem Backend.hits_withoutRepetitions (hd : d.SingleValued) (field : Value) (vs : List Value) :
    B.hits d (field, B.withoutRepetitions vs) = min 1 (B.hits d (field, vs)) := by
  have hone : B.hits d (field, B.withoutRepetitions vs) ≤ 1 :=
    hits_le_one hd (B.pairwise_withoutRepetitions vs)
  have hpos : 0 < B.hits d (field, B.withoutRepetitions vs) ↔ 0 < B.hits d (field, vs) := by
    rw [hits_pos_iff, hits_pos_iff]
    exact exists_has_withoutRepetitions_iff
  omega

/-! ### When repetitions matter -/

theorem PredicateSet.accepts_withIns_iff {p : PredicateSet} {names : List Value}
    (hw : p.wheres.Distinct) (es : Assoc (List Value)) :
    B.accepts d (PredicateSet.compileWith { p with whereIns := es } names).native = true ↔
      p.MeetsPlain B names d ∧ es.length ≤ (es.map (B.hits d)).sum := by
  have hes : ({ p with whereIns := es } : PredicateSet).wheres.Distinct := hw
  rw [accepts_compileWith_iff hes]
  refine and_congr_left fun _ => ?_
  exact ⟨fun h => ⟨h.text, h.wheres, h.ranges, h.unmarked, h.whereNotIns⟩,
    fun h => ⟨h.text, h.wheres, h.ranges, h.unmarked, h.whereNotIns⟩⟩

/-- **When the repetitions in a set filter matter.**  The query for the list without them accepts
no document that the query for the list itself does not.  The two differ on a document exactly
when it meets everything beside the set filters, the other set filters and one hit of this list do
not make up the count of the set filters, and all the hits of this list do. -/
theorem PredicateSet.accepts_iff_withoutRepetitions_iff (B : Backend) {p : PredicateSet}
    {fields : Value} {names : List Value} {d : Document} {before after : Assoc (List Value)}
    {key : Value} {vs : List Value} (hf : NamesIn fields names) (hw : p.wheres.Distinct)
    (hd : d.SingleValued) (hp : p.whereIns = before ++ (key, vs) :: after) :
    ∃ q q', p.compile fields = pure q ∧
      PredicateSet.compile
        { p with whereIns := before ++ (key, B.withoutRepetitions vs) :: after } fields = pure q' ∧
      (B.accepts d q'.native = true → B.accepts d q.native = true) ∧
      ((B.accepts d q.native = true ↔ B.accepts d q'.native = true) ↔
        ¬ (p.MeetsPlain B names d ∧
          ((before ++ after).map (B.hits d)).sum + 1 < p.whereIns.length ∧
          p.whereIns.length ≤ ((before ++ after).map (B.hits d)).sum + B.hits d (key, vs))) := by
  refine ⟨_, _, compile_eq hf, compile_eq hf, ?_⟩
  have hsum : ∀ e : Value × List Value, ((before ++ e :: after).map (B.hits d)).sum =
      ((before ++ after).map (B.hits d)).sum + B.hits d e := by
    intro e
    simp only [List.map_append, List.map_cons, List.sum_append, List.sum_cons]
    omega
  have hlength : (before ++ (key, B.withoutRepetitions vs) :: after).length =
      p.whereIns.length := by
    rw [hp, List.length_append, List.length_append]
    rfl
  have hq : B.accepts d (p.compileWith names).native = true ↔ p.MeetsPlain B names d ∧
      p.whereIns.length ≤ ((before ++ after).map (B.hits d)).sum + B.hits d (key, vs) := by
    rw [accepts_compileWith_iff hw, ← hsum, ← hp]
  have hq' : B.accepts d (PredicateSet.compileWith
        { p with whereIns := before ++ (key, B.withoutRepetitions vs) :: after }
        names).native = true ↔ p.MeetsPlain B names d ∧
      p.whereIns.length ≤
        ((before ++ after).map (B.hits d)).sum + min 1 (B.hits d (key, vs)) := by
    rw [accepts_withIns_iff hw, hlength, hsum, Backend.hits_withoutRepetitions hd]
  rw [hq, hq']
  by_cases hplain : p.MeetsPlain B names d
  · -- what is left compares the hits of the list with at most one of them
    simp only [hplain, true_and]
    omega
  · simp [hplain]

/-- On a document that meets both set filters the repetition does not matter. -/
theorem PredicateSet.accepts_repeated_value_for_met_filters :
    ∃ q q',
      PredicateSet.compile
        { whereIns := [(.str "a", [.int 1, .int 1]), (.str "b", [.int 2])] } .null = pure q ∧
      PredicateSet.compile
        { whereIns := [(.str "a", Backend.literal.withoutRepetitions [.int 1, .int 1]),
          (.str "b", [.int 2])] } .null = pure q' ∧
      (Backend.literal.accepts (Document.ofEntries [(.str "a", .int 1), (.str "b", .int 2)])
          q.native = true ↔
        Backend.literal.accepts (Document.ofEntries [(.str "a", .int 1), (.str "b", .int 2)])
          q'.native = true) := by
  obtain ⟨q, q', hq, hq', -, hiff⟩ := accepts_iff_withoutRepetitions_iff Backend.literal
    (p := { whereIns := [(.str "a", [.int 1, .int 1]), (.str "b", [.int 2])] })
    (.inr ⟨rfl, rfl⟩ : NamesIn .null []) List.Pairwise.nil
    (Document.singleValued_ofEntries [(.str "a", .int 1), (.str "b", .int 2)])
    (List.nil_append _).symm
  refine ⟨q, q', hq, hq', hiff.2 ?_⟩
  rintro ⟨-, hless, -⟩
  simp [Backend.hits, Backend.has, Backend.literal, Document.ofEntries, Assoc.get?_cons] at hless

/-- On a document that misses one of two set filters a value that the other one lists twice makes
up for it. -/
theorem PredicateSet.accepts_repeated_value_for_missed_filter :
    (Document.ofEntries [(.str "a", .int 1)]).SingleValued ∧
    ∃ q q',
      PredicateSet.compile
        { whereIns := [(.str "a", [.int 1, .int 1]), (.str "b", [.int 2])] } .null = pure q ∧
      PredicateSet.compile
        { whereIns := [(.str "a", Backend.literal.withoutRepetitions [.int 1, .int 1]),
          (.str "b", [.int 2])] } .null = pure q' ∧
      Backend.literal.accepts (Document.ofEntries [(.str "a", .int 1)]) q.native = true ∧
      Backend.literal.accepts (Document.ofEntries [(.str "a", .int 1)]) q'.native = false := by
  have hf : NamesIn .null [] := .inr ⟨rfl, rfl⟩
  refine ⟨Document.singleValued_ofEntries _, _, _, compile_eq hf, compile_eq hf, ?_, ?_⟩
  · rw [accepts_compileWith_iff (by simp [Assoc.Distinct])]
    refine ⟨⟨by simp, by simp, by simp, by simp, by simp⟩, ?_⟩
    simp [Backend.hits, Backend.has, Backend.literal, Document.ofEntries, Assoc.get?_cons]
  · rw [Bool.eq_false_iff, ne_eq, accepts_compileWith_iff (by simp [Assoc.Distinct])]
    rintro ⟨-, hcount⟩
    simp [Backend.hits, Backend.has, Backend.literal, Backend.withoutRepetitions,
      Document.ofEntries, Assoc.get?_cons] at hcount

end SearchKit
