import SearchKit.Proofs.Query.Acceptance
import SearchKit.Proofs.Session.Reading
import Mathlib

/-!
# The meaning of a compiled query

What a predicate set asks of a document, said without clauses (`PredicateSet.Matches`), and that
its compiled query asks exactly this (`PredicateSet.accepts_compile_iff_matches`).

The filters, ranges and exclusions become one clause each.  The set filters are different: all
their values stand in one flat list, of which as many clauses have to hold as there are set
filters.  That this is the conjunction of the set filters is a counting argument:

* a field with at most one value hits at most one of the values of a list without repetitions
  (`Backend.hits_le_one`);
* so the hits reach the count of the lists exactly when every list is hit
  (`length_le_sum_iff`).

Without the two conditions only the counting is left (`PredicateSet.accepts_compileWith_iff`).
-/

namespace SearchKit

/-! ### What a predicate set asks for -/

/-- A value lies within bounds; a null bound is open. -/
def RangeBound.Contains (b : RangeBound) (B : Backend) (x : Value) : Prop :=
  (b.gte.isNull = false → B.atMost b.gte x = true) ∧
    (b.lte.isNull = false → B.atMost x b.lte = true)

/-- What a predicate set asks of a document beside its set filters. -/
structure PredicateSet.MeetsPlain (p : PredicateSet) (B : Backend) (names : List Value)
    (d : Document) : Prop where
  /-- The document matches the free text, if there is one. -/
  text : p.query ≠ "" → B.matchesText p.query names d = true
  /-- Every equality filter holds. -/
  wheres : ∀ e ∈ p.wheres, B.has d e.1 e.2 = true
  /-- Every range holds. -/
  ranges : ∀ e ∈ p.ranges, ∃ x ∈ d e.1, e.2.Contains B x
  /-- With a filter or a range the document is not softly deleted, unless the filters name the
  mark themselves. -/
  unmarked : p.wheres ≠ [] ∨ p.ranges ≠ [] → (∀ e ∈ p.wheres, e.1 ≠ .str softDeletedField) →
    B.has d (.str softDeletedField) (.int 0) = true
  /-- No excluded value occurs. -/
  whereNotIns : ∀ e ∈ p.whereNotIns, ∀ v ∈ e.2, B.has d e.1 v = false

/-- What a predicate set asks of a document. -/
structure PredicateSet.Matches (p : PredicateSet) (B : Backend) (names : List Value)
    (d : Document) : Prop extends p.MeetsPlain B names d where
  /-- Every set filter has one of its values. -/
  whereIns : ∀ e ∈ p.whereIns, ∃ v ∈ e.2, B.has d e.1 v = true

/-! ### Filters -/

variable {B : Backend} {d : Document} {p : PredicateSet} {names : List Value}

theorem Backend.within_document_iff {b : RangeBound} {x : Value} :
    B.within b.document x = true ↔ b.Contains B x := by
  obtain ⟨gte, lte⟩ := b
  cases hg : gte.isNull <;> cases hl : lte.isNull <;>
    simp [within, RangeBound.document, RangeBound.Contains, hg, hl, Assoc.get?_cons]

theorem PredicateSet.mem_markedWheres_iff (hw : p.wheres.Distinct) {e : Value × Value} :
    e ∈ p.markedWheres ↔ e ∈ p.wheres ∨
      e = (.str softDeletedField, .int 0) ∧ ∀ f ∈ p.wheres, f.1 ≠ .str softDeletedField :=
  Assoc.mem_update_single_iff hw

theorem PredicateSet.holds_filterClauses_iff (hw : p.wheres.Distinct) :
    (∀ c ∈ p.filterClauses, B.holds d c = true) ↔
      (∀ e ∈ p.wheres, B.has d e.1 e.2 = true) ∧
      (∀ e ∈ p.ranges, ∃ x ∈ d e.1, e.2.Contains B x) ∧
      (p.wheres ≠ [] ∨ p.ranges ≠ [] → (∀ e ∈ p.wheres, e.1 ≠ .str softDeletedField) →
        B.has d (.str softDeletedField) (.int 0) = true) := by
  by_cases hnone : p.wheres = [] ∧ p.ranges = []
  · simp [filterClauses, hnone.1, hnone.2]
  have hclauses : p.filterClauses = p.markedWheres.map (fun e => termClause e.1 e.2) ++
      p.ranges.map fun e => rangeClause e.1 e.2 := by
    unfold filterClauses
    rw [if_neg]
    simpa using hnone
  have hsome : p.wheres ≠ [] ∨ p.ranges ≠ [] := by
    by_contra h
    push Not at h
    exact hnone h
  rw [hclauses]
  simp only [List.forall_mem_append, List.forall_mem_map, Backend.holds_termClause,
    Backend.holds_rangeClause, List.any_eq_true, Backend.within_document_iff]
  constructor
  · rintro ⟨hmarked, hranges⟩
    exact ⟨fun e he => hmarked e ((mem_markedWheres_iff hw).2 (.inl he)), hranges,
      fun _ hn => hmarked _ ((mem_markedWheres_iff hw).2 (.inr ⟨rfl, hn⟩))⟩
  · rintro ⟨hwheres, hranges, hmark⟩
    refine ⟨fun e he => ?_, hranges⟩
    rcases (mem_markedWheres_iff hw).1 he with he | ⟨rfl, hn⟩
    · exact hwheres e he
    · exact hmark hsome hn

/-! ### Counting the hits of the set filters -/

/-- How many values of a set filter a document hits, counted with repetitions. -/
def Backend.hits (B : Backend) (d : Document) (e : Value × List Value) : ℕ :=
  e.2.countP (B.has d e.1)

theorem PredicateSet.countP_shouldClauses :
    p.shouldClauses.countP (B.holds d) = (p.whereIns.map (B.hits d)).sum := by
  rw [shouldClauses, List.countP_flatMap]
  refine congrArg List.sum (List.map_congr_left fun e _ => ?_)
  exact List.countP_map

theorem Backend.hits_pos_iff {e : Value × List Value} :
    0 < B.hits d e ↔ ∃ v ∈ e.2, B.has d e.1 v = true := List.countP_pos_iff

/-- A field without a second value hits a list without repetitions at most once. -/
theorem Backend.hits_le_one (hd : d.SingleValued) {e : Value × List Value}
    (hv : e.2.Pairwise fun v w => B.same v w = false) : B.hits d e ≤ 1 := by
  obtain ⟨field, values⟩ := e
  simp only [hits] at hv ⊢
  induction values with
  | nil => simp
  | cons v values ih =>
    obtain ⟨hne, hrest⟩ := List.pairwise_cons.1 hv
    by_cases hhas : B.has d field v = true
    · -- what equals `v` equals no further value
      have hnone : values.countP (B.has d field) = 0 := by
        rw [List.countP_eq_zero]
        intro w hw hhas'
        obtain ⟨x, hx, hxv⟩ := has_iff.1 hhas
        obtain ⟨y, hy, hyw⟩ := has_iff.1 hhas'
        obtain rfl := hd.eq hx hy
        have := B.same_trans v x w (B.same_symm x v hxv) hyw
        rw [hne w hw] at this
        cases this
      rw [List.countP_cons_of_pos hhas, hnone, Nat.zero_add]
    · rw [List.countP_cons_of_neg hhas]
      exact ih hrest

/-- Numbers up to one reach their count exactly when none of them is zero. -/
theorem length_le_sum_iff {xs : List ℕ} (h : ∀ x ∈ xs, x ≤ 1) :
    xs.length ≤ xs.sum ↔ ∀ x ∈ xs, 0 < x := by
  induction xs with
  | nil => simp
  | cons x xs ih =>
    have hx := h x List.mem_cons_self
    have hxs : ∀ y ∈ xs, y ≤ 1 := fun y hy => h y (List.mem_cons_of_mem _ hy)
    have hle : xs.sum ≤ xs.length := by
      simpa using List.sum_le_card_nsmul xs 1 hxs
    -- the further numbers at most reach their own count, so they cannot make up for a zero
    rw [List.length_cons, List.sum_cons, List.forall_mem_cons, ← ih hxs]
    omega

/-- **A compiled query in terms of its predicate set**, the set filters still counted. -/
theorem PredicateSet.accepts_compileWith_iff (hw : p.wheres.Distinct) :
    B.accepts d (p.compileWith names).native = true ↔
      p.MeetsPlain B names d ∧ p.whereIns.length ≤ (p.whereIns.map (B.hits d)).sum := by
  have htext : (∀ c ∈ (p.compileWith names).must, B.holds d c = true) ↔
      (p.query ≠ "" → B.matchesText p.query names d = true) := by
    by_cases hq : p.query = "" <;> simp [compileWith, hq, Backend.holds_textClause]
  have hnot : (∀ c ∈ (p.compileWith names).mustNot, B.holds d c = false) ↔
      ∀ e ∈ p.whereNotIns, ∀ v ∈ e.2, B.has d e.1 v = false := by
    rw [show (p.compileWith names).mustNot = p.whereNotIns.map fun e => termsClause e.1 e.2 from
      rfl, List.forall_mem_map]
    simp only [Backend.holds_termsClause, List.any_eq_false, Bool.not_eq_true]
  have hleast : (∀ n, (p.compileWith names).minimumShouldMatch = some n →
        n ≤ ((p.compileWith names).should.countP (B.holds d) : ℤ)) ↔
      p.whereIns.length ≤ (p.whereIns.map (B.hits d)).sum := by
    rw [show (p.compileWith names).should = p.shouldClauses from rfl, countP_shouldClauses]
    -- a least count is set only where there are set filters
    by_cases hin : p.whereIns = []
    · simp [compileWith, hin]
    · have hsome : (p.compileWith names).minimumShouldMatch = some (p.whereIns.length : ℤ) := by
        simp [compileWith, hin]
      rw [hsome]
      exact ⟨fun h => Int.ofNat_le.1 (h _ rfl),
        fun h n hn => Option.some.inj hn ▸ Int.ofNat_le.2 h⟩
  rw [Backend.accepts_native, htext, hnot, hleast]
  change _ ∧ (∀ c ∈ p.filterClauses, B.holds d c = true) ∧ _ ↔ _
  rw [holds_filterClauses_iff hw]
  constructor
  · rintro ⟨ht, ⟨hwheres, hranges, hmark⟩, hn, hl⟩
    exact ⟨⟨ht, hwheres, hranges, hmark, hn⟩, hl⟩
  · rintro ⟨⟨ht, hwheres, hranges, hmark, hn⟩, hl⟩
    exact ⟨ht, ⟨hwheres, hranges, hmark⟩, hn, hl⟩

theorem PredicateSet.length_le_sum_hits_iff (hd : d.SingleValued)
    (hv : ∀ e ∈ p.whereIns, e.2.Pairwise fun v w => B.same v w = false) :
    p.whereIns.length ≤ (p.whereIns.map (B.hits d)).sum ↔
      ∀ e ∈ p.whereIns, ∃ v ∈ e.2, B.has d e.1 v = true := by
  have hone : ∀ n ∈ p.whereIns.map (B.hits d), n ≤ 1 :=
    List.forall_mem_map.2 fun e he => Backend.hits_le_one hd (hv e he)
  have := length_le_sum_iff hone
  rw [List.length_map] at this
  rw [this, List.forall_mem_map]
  exact forall₂_congr fun e _ => Backend.hits_pos_iff

/-! ### The compiled query of a predicate set -/

/-- The names of text fields that a value lists; null lists none. -/
def NamesIn (fields : Value) (names : List Value) : Prop :=
  fields.items? = some names ∨ fields = .null ∧ names = []

theorem PredicateSet.compileWith_of_query_empty (hq : p.query = "") (names : List Value) :
    p.compileWith names = p.compileWith [] := by
  simp [compileWith, hq]

theorem PredicateSet.compile_of_query_empty (hq : p.query = "") (fields : Value) :
    p.compile fields = pure (p.compileWith []) := by
  rw [compile, if_pos (.inl hq)]

theorem PredicateSet.compile_eq {fields : Value} (hf : NamesIn fields names) :
    p.compile fields = pure (p.compileWith names) := by
  unfold compile
  split
  · rename_i h
    rcases h with hq | hfalsy
    · rw [compileWith_of_query_empty hq names]
    · have : names = [] := by
        rcases hf with hf | hf
        · cases fields <;> simp_all [Value.items?, Value.truthy]
        · exact hf.2
      rw [this]
  · rename_i h
    push Not at h
    rcases hf with hf | ⟨rfl, -⟩
    · rw [itemsOf_eq hf]
      rfl
    · exact absurd rfl h.2

/-- **A compiled query means its predicate set.**  Compiling always gives a query, and its native
form accepts exactly the documents that the predicate set matches: those that match the free text,
meet every filter and range, are not marked as softly deleted where filters or ranges are given
without naming the mark, have one of the values of every set filter (of an empty one never) and no
excluded value.  The lists of the set filters are without repetitions and no field of the document
has more than one value. -/
theorem PredicateSet.accepts_compile_iff_matches (B : Backend) {p : PredicateSet}
    {fields : Value} {names : List Value} {d : Document} (hf : NamesIn fields names)
    (hw : p.wheres.Distinct)
    (hv : ∀ e ∈ p.whereIns, e.2.Pairwise fun v w => B.same v w = false)
    (hd : d.SingleValued) :
    ∃ q, p.compile fields = pure q ∧ (B.accepts d q.native = true ↔ p.Matches B names d) := by
  refine ⟨p.compileWith names, compile_eq hf, ?_⟩
  rw [accepts_compileWith_iff hw, length_le_sum_hits_iff hd hv]
  exact ⟨fun h => ⟨h.1, h.2⟩, fun h => ⟨h.toMeetsPlain, h.whereIns⟩⟩

/-- Two set filters beside a text, a filter, an open range and an exclusion: the query takes a
document that has the second value of the one and the first of the other. -/
theorem PredicateSet.accepts_compile_of_two_set_filters :
    ∃ q, PredicateSet.compile {
          query := "atlas"
          wheres := [(.str "status", .str "live")]
          whereIns := [(.str "tier", [.int 1, .int 2]), (.str "region", [.str "eu", .str "us"])]
          whereNotIns := [(.str "tag", [.str "old"])]
          ranges := [(.str "size", ⟨.int 3, .null⟩)] } (.list [.str "title"]) = pure q ∧
      Backend.literal.accepts (Document.ofEntries [
          (.str "title", .str "atlas"), (.str "status", .str "live"), (.str "tier", .int 2),
          (.str "region", .str "eu"), (.str "tag", .str "new"), (.str "size", .int 5),
          (.str softDeletedField, .int 0)]) q.native = true := by
  obtain ⟨q, hq, hiff⟩ := accepts_compile_iff_matches Backend.literal
    (p := {
      query := "atlas"
      wheres := [(.str "status", .str "live")]
      whereIns := [(.str "tier", [.int 1, .int 2]), (.str "region", [.str "eu", .str "us"])]
      whereNotIns := [(.str "tag", [.str "old"])]
      ranges := [(.str "size", ⟨.int 3, .null⟩)] })
    (.inl rfl : NamesIn (.list [.str "title"]) [.str "title"]) (by simp [Assoc.Distinct])
    (by simp [Backend.literal]) (Document.singleValued_ofEntries [
      (.str "title", .str "atlas"), (.str "status", .str "live"), (.str "tier", .int 2),
      (.str "region", .str "eu"), (.str "tag", .str "new"), (.str "size", .int 5),
      (.str softDeletedField, .int 0)])
  refine ⟨q, hq, hiff.2 ?_⟩
  constructor
  · constructor <;>
      simp [Backend.literal, Backend.has, RangeBound.Contains, Document.ofEntries, Assoc.get?_cons,
        softDeletedField, Value.isNull]
  · simp [Backend.has_literal_iff, Document.ofEntries, Assoc.get?_cons]

end SearchKit
