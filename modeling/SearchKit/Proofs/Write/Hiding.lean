import SearchKit.Proofs.Query.Meaning
import SearchKit.Proofs.Write.Updating

/-!
# Deleted records are hidden under filters

With soft deletion on, a batch gives every record that takes part its mark: one for a deleted
record, zero for a live one.  The mark is written over what the searchable form and the older
metadata hold under its name, and only an identifier of that name would be written over the mark.
A query with a filter or a range, but no filter on the mark, asks for the mark zero in one clause
of its own, in front of the others.  So that clause alone keeps the deleted records out, and no live
one.

* `Record.get?_written_marked` : the mark in the document of a record that takes part.
* `PredicateSet.filterClauses_of_unmarked` : the clause on the mark among the filter clauses.
* `CompiledQuery.accepts_iff_of_filter` : one filter clause apart from the rest of a query.
* `update_hides_deleted` : **what an operation writes is hidden where it is deleted**, from every
  query of that kind, and is found like without the clause where it is live.
-/

namespace SearchKit

open Act

variable {B : Backend} {d : Document} {p : PredicateSet} {r : Record}

/-! ### The mark that is written -/

/-- The mark of a record that takes part in soft deletion. -/
def Record.mark (r : Record) : Value := .int (if r.trashed then 1 else 0)

/-- The mark stands in the document whatever the searchable form and the metadata hold under its
name. -/
theorem Record.get?_written_marked (h : r.Mapped) (hmarked : r.softDelete = true)
    (hname : r.keyName ≠ .str softDeletedField) :
    (r.written true).get? (.str softDeletedField) = some r.mark := by
  have hkey : ¬ r.keyName.sameKey (.str softDeletedField) = true :=
    mt Value.sameKey_str_right.1 hname
  have hextras : (r.markedExtras true).get? (.str softDeletedField) = some r.mark := by
    rw [markedExtras, hmarked, Bool.and_self, if_pos rfl, Assoc.get?_set,
      if_pos (Value.sameKey_str_left.2 rfl)]
    rfl
  rw [get?_written h.extras, if_neg hkey, hextras]
  rfl

/-- A document as the backend reads it off entries, as far as the mark goes: the mark is one value.
Other fields may be read as several, such as those of a list. -/
def Document.ReadsMarkOf (d : Document) (es : Entries) : Prop :=
  d (.str softDeletedField) = (es.get? (.str softDeletedField)).toList

theorem Document.readsMarkOf_ofEntries (es : Entries) : (ofEntries es).ReadsMarkOf es := rfl

theorem Document.ReadsMarkOf.has_zero_iff (hd : d.ReadsMarkOf (r.written true)) (h : r.Mapped)
    (hmarked : r.softDelete = true) (hname : r.keyName ≠ .str softDeletedField) :
    B.has d (.str softDeletedField) (.int 0) = true ↔ B.same r.mark (.int 0) = true := by
  rw [Backend.has_iff, hd, Record.get?_written_marked h hmarked hname]
  simp

/-! ### The clause that asks for it -/

/-- The filter clauses that a predicate set names itself, one for each equality filter and one for
each range. -/
def PredicateSet.ownClauses (p : PredicateSet) : List Value :=
  p.wheres.map (fun e => termClause e.1 e.2) ++ p.ranges.map fun e => rangeClause e.1 e.2

/-- The set has an equality filter or a range, and no equality filter on the mark. -/
structure PredicateSet.FiltersUnmarked (p : PredicateSet) : Prop where
  /-- Each field is filtered once. -/
  distinct : p.wheres.Distinct
  /-- There is a filter or a range. -/
  filtered : p.wheres ≠ [] ∨ p.ranges ≠ []
  /-- No filter names the mark. -/
  unmarked : ∀ e ∈ p.wheres, e.1 ≠ .str softDeletedField

/-- The clause on the mark stands in front of those that the set names itself. -/
theorem PredicateSet.filterClauses_of_unmarked (h : p.FiltersUnmarked) :
    p.filterClauses = termClause (.str softDeletedField) (.int 0) :: p.ownClauses := by
  have hsome : ¬ (p.wheres.isEmpty && p.ranges.isEmpty) = true := by
    rcases h.filtered with hwheres | hranges
    · simp [hwheres]
    · simp [hranges]
  have hmarked : p.markedWheres = (.str softDeletedField, .int 0) :: p.wheres :=
    Assoc.update_single_of_absent h.distinct h.unmarked _
  rw [filterClauses, if_neg hsome, hmarked]
  rfl

/-- A filter clause is asked for beside the rest of its query. -/
theorem CompiledQuery.accepts_iff_of_filter {q : CompiledQuery} {clause : Value}
    {clauses : List Value} (h : q.filter = clause :: clauses) :
    B.accepts d q.native = true ↔
      B.holds d clause = true ∧ B.accepts d { q with filter := clauses }.native = true := by
  rw [Backend.accepts_native, Backend.accepts_native, h, List.forall_mem_cons]
  constructor
  · rintro ⟨hmust, ⟨hclause, hclauses⟩, hrest⟩
    exact ⟨hclause, hmust, hclauses, hrest⟩
  · rintro ⟨hclause, hmust, hclauses, hrest⟩
    exact ⟨hmust, ⟨hclause, hclauses⟩, hrest⟩

/-- A compiled query hides the documents of deleted records, and those of live ones no more than it
would without its clause on the mark. -/
structure CompiledQuery.Hides (B : Backend) (q : CompiledQuery) (clauses : List Value)
    (r : Record) : Prop where
  /-- The clause on the mark stands in front of the others. -/
  filter : q.filter = termClause (.str softDeletedField) (.int 0) :: clauses
  /-- The document of a deleted record is not accepted. -/
  deleted : r.trashed = true → ∀ d : Document, d.ReadsMarkOf (r.written true) →
    B.accepts d q.native = false
  /-- The document of a live record is accepted as without the clause. -/
  live : r.trashed = false → ∀ d : Document, d.ReadsMarkOf (r.written true) →
    (B.accepts d q.native = true ↔ B.accepts d { q with filter := clauses }.native = true)

theorem PredicateSet.hides_compileWith (htold : B.same (.int 1) (.int 0) = false)
    (hp : p.FiltersUnmarked) (hr : r.Mapped) (hmarked : r.softDelete = true)
    (hname : r.keyName ≠ .str softDeletedField) (names : List Value) :
    (p.compileWith names).Hides B p.ownClauses r := by
  have hfilter : (p.compileWith names).filter =
      termClause (.str softDeletedField) (.int 0) :: p.ownClauses := filterClauses_of_unmarked hp
  -- what the clause asks for is the mark that the record is written with
  have hclause : ∀ d : Document, d.ReadsMarkOf (r.written true) →
      (B.holds d (termClause (.str softDeletedField) (.int 0)) = true ↔
        B.same r.mark (.int 0) = true) := fun d hd => by
    rw [Backend.holds_termClause]
    exact hd.has_zero_iff hr hmarked hname
  refine ⟨hfilter, fun htrashed d hd => ?_, fun hlive d hd => ?_⟩
  · have hone : r.mark = .int 1 := by rw [Record.mark, htrashed]; rfl
    rw [Bool.eq_false_iff, ne_eq, CompiledQuery.accepts_iff_of_filter hfilter, hclause d hd, hone,
      htold]
    simp
  · have hzero : r.mark = .int 0 := by rw [Record.mark, hlive]; rfl
    rw [CompiledQuery.accepts_iff_of_filter hfilter, hclause d hd, hzero]
    exact and_iff_right (B.same_refl _)

/-! ### What an operation writes -/

open Elasticsearch (connection update)

variable {s s₀ : Session} {id : Nat} {via : Connection} {provider : Provider} {records : Value}
  {vs : List Value}

/-- The records whose documents an operation on records writes: none where the batch cannot be
built, else those with a searchable form. -/
theorem update_written (hconnection : (connection id).outcome s = (.ok via, s₀))
    (hvia : via.Usable) (hprovider : s₀.providers[id]? = some provider)
    (hsoft : (provider.settings.getD "soft_delete").truthy = true)
    (hitems : records.items? = some vs)
    (hmapped : ∀ v ∈ vs, ∀ n r, recordOf? s₀ v = some (n, r) → r.Mapped) :
    ∃ rs : List Record,
      ((update id records).outcome s).2.requests = s.requests ++ bulkRequests via true rs ∧
      (∀ r ∈ rs, r.Mapped ∧ ∃ v ∈ vs, s₀.indexed? v = some r) ∧
      ((∀ v ∈ vs, s₀.HoldsDeclared v) →
        ((∀ v ∈ vs, s₀.HoldsWritable v) →
          rs = (vs.filterMap s₀.indexed?).filter fun r => r.entries ≠ []) ∧
        ((∃ v ∈ vs, ¬ s₀.HoldsWritable v) → rs = [])) := by
  have hupdate : (update id records).outcome s =
      (indexingBatch true records >>= fun b => do
        return Response.withNative .null (← sendBatch via b)).outcome s₀ := by
    rw [update, outcome_bind_ok hconnection, outcome_bind_ok (provider_outcome hprovider), hsoft]
  have hconnected : s₀.requests = s.requests := (keeps_requests_connection id).after hconnection
  rcases hbuilt : (indexingBatch true records).outcome s₀ with ⟨fault | b, s'⟩
  · -- nothing is sent, which happens to records of declared types only for want of a text
    refine ⟨[], ?_, by simp, fun hdeclared => ⟨fun hall => ?_, fun _ => rfl⟩⟩
    · rw [hupdate, outcome_bind_error hbuilt, bulkRequests, List.append_nil, ← hconnected]
      exact (keeps_indexingBatch apart_requests true records).after hbuilt
    · obtain ⟨b, s'', hb, -⟩ := (indexingBatch_outcome true hitems hdeclared).1 hall
      rw [hbuilt] at hb
      cases hb
  · have hfold : (vs.foldlM (addRecord true) {}).outcome s₀ = (.ok b, s') := by
      rwa [indexingBatch, foldItems_of_items hitems] at hbuilt
    have hstart : s₀.Resembles true s₀ := fun v r hr => ⟨r, hr, .refl true r⟩
    have hindexed : ∀ v ∈ vs, ∀ r, s₀.indexed? v = some r → r.Mapped := fun v hv r hr =>
      Session.mapped_of_indexed? (hmapped v hv) hr
    obtain ⟨rs, hrs, rfl, -⟩ := foldlM_addRecord_ok hstart hindexed hfold
    have hread : rs = vs.filterMap s₀.indexed? := by
      have hsame := congrArg List.reduceOption hrs
      simpa [List.reduceOption, List.filterMap_map, Function.comp_def] using hsame.symm
    refine ⟨rs.filter fun r => r.entries ≠ [], ?_, fun r hr => ?_, fun hdeclared =>
      ⟨fun _ => by rw [hread], fun hlong => ?_⟩⟩
    · rw [hupdate, outcome_bind_ok hbuilt, asks_sendBatch_answer hvia,
        (keeps_indexingBatch apart_requests true records).after hbuilt, hconnected,
        requests_foldl_addWrite]
    · obtain ⟨v, hv, hvr⟩ : ∃ v ∈ vs, s₀.indexed? v = some r := by
        have hmem := (List.mem_filter.1 hr).1
        rw [hread] at hmem
        exact List.mem_filterMap.1 hmem
      exact ⟨hindexed v hv r hvr, v, hv, hvr⟩
    · obtain ⟨s'', hfault⟩ := (indexingBatch_outcome true hitems hdeclared).2 hlong
      rw [hbuilt] at hfault
      cases hfault

/-- **Deleted records are hidden under filters.**  With soft deletion on, an operation on records
makes one bulk request for the documents that it writes, or none; where all of its items are records
of declared types it writes one for each of them that has a searchable form, and none at all if the
identifier of one of these has no text.  Whatever the records
and their older metadata hold, and however many of them are written: let a record take part in soft
deletion, its identifier not standing under the name of the mark, and let a predicate set have an
equality filter or a range, but no filter on the mark.  Then compiling gives a query with a clause
on the mark in front of the filters and ranges of the set; the query does not accept the document
of the record if it is deleted, and if it is live accepts the document exactly when it does so
without that clause.  The backend tells the mark one from the mark zero; it may read the other
fields of a document as it likes. -/
theorem update_hides_deleted (htold : B.same (.int 1) (.int 0) = false)
    (hconnection : (connection id).outcome s = (.ok via, s₀))
    (hvia : via.Usable) (hprovider : s₀.providers[id]? = some provider)
    (hsoft : (provider.settings.getD "soft_delete").truthy = true)
    (hitems : records.items? = some vs)
    (hmapped : ∀ v ∈ vs, ∀ n r, recordOf? s₀ v = some (n, r) → r.Mapped) :
    ∃ rs : List Record,
      ((update id records).outcome s).2.requests = s.requests ++ bulkRequests via true rs ∧
      (∀ r ∈ rs, ∃ v ∈ vs, s₀.indexed? v = some r) ∧
      ((∀ v ∈ vs, s₀.HoldsDeclared v) →
        ((∀ v ∈ vs, s₀.HoldsWritable v) →
          rs = (vs.filterMap s₀.indexed?).filter fun r => r.entries ≠ []) ∧
        ((∃ v ∈ vs, ¬ s₀.HoldsWritable v) → rs = [])) ∧
      ∀ p : PredicateSet, p.FiltersUnmarked → ∀ fields names, NamesIn fields names →
        ∃ q, p.compile fields = pure q ∧ ∀ r ∈ rs, r.softDelete = true →
          r.keyName ≠ .str softDeletedField → q.Hides B p.ownClauses r := by
  obtain ⟨rs, hrequests, hread, hall⟩ :=
    update_written hconnection hvia hprovider hsoft hitems hmapped
  refine ⟨rs, hrequests, fun r hr => (hread r hr).2, hall, ?_⟩
  intro p hp fields names hnames
  refine ⟨p.compileWith names, PredicateSet.compile_eq hnames, fun r hr hmarked hname => ?_⟩
  exact PredicateSet.hides_compileWith htold hp (hread r hr).1 hmarked hname names

/-- A provider with soft deletion on and an open connection; a deleted record whose searchable form
says that it is live, and a live one whose metadata say that it is deleted. -/
def Session.ofDeletedAndLive : Session where
  records := [
    { key := .int 1, keyName := .str "id", collection := .str "posts"
      document := .dict [(.str "size", .int 4), (.str softDeletedField, .int 0)]
      metadata := .dict [], softDelete := true, trashed := true },
    { key := .int 2, keyName := .str "id", collection := .str "posts"
      document := .dict [(.str "size", .int 4)]
      metadata := .dict [(.str softDeletedField, .int 1)], softDelete := true, trashed := false }]
  providers := [{
    kind := .elasticsearch, settings := [("soft_delete", .bool true)]
    connection := some .host, ready := true }]

/-- The deleted record of the two. -/
def Record.ofDeleted : Record := Session.ofDeletedAndLive.records[0]

/-- The live record of the two. -/
def Record.ofLive : Record := Session.ofDeletedAndLive.records[1]

theorem Record.declared_ofDeleted : ofDeleted.Declared where
  keyName := ⟨"id", rfl⟩
  collection := rfl
  document := .inl rfl
  entries := ⟨by simp [Assoc.Distinct, entries, ofDeleted, Session.ofDeletedAndLive, Value.asDict?,
    softDeletedField], by simp [entries, ofDeleted, Session.ofDeletedAndLive, Value.asDict?]⟩
  metadata := rfl
  extras := ⟨List.Pairwise.nil,
    by simp [extras, ofDeleted, Session.ofDeletedAndLive, Value.asDict?]⟩

theorem Record.declared_ofLive : ofLive.Declared where
  keyName := ⟨"id", rfl⟩
  collection := rfl
  document := .inl rfl
  entries := ⟨List.pairwise_singleton _ _,
    by simp [entries, ofLive, Session.ofDeletedAndLive, Value.asDict?]⟩
  metadata := rfl
  extras := ⟨List.pairwise_singleton _ _,
    by simp [extras, ofLive, Session.ofDeletedAndLive, Value.asDict?]⟩

theorem Session.holdsDeclared_ofDeletedAndLive :
    ∀ v ∈ [Value.record 0 "deleted", .record 1 "live"], ofDeletedAndLive.HoldsDeclared v := by
  intro v hv
  rcases List.mem_pair.1 hv with rfl | rfl
  · exact ⟨0, .ofDeleted, rfl, Record.declared_ofDeleted⟩
  · exact ⟨1, .ofLive, rfl, Record.declared_ofLive⟩

theorem Session.holdsWritable_ofDeletedAndLive :
    ∀ v ∈ [Value.record 0 "deleted", .record 1 "live"], ofDeletedAndLive.HoldsWritable v := by
  intro v hv n r hr _
  rcases List.mem_pair.1 hv with rfl | rfl
  · cases hr
    rfl
  · cases hr
    rfl

theorem Record.written_ofLive : ofLive.written true =
    [(.str "size", .int 4), (.str softDeletedField, .int 0), (.str "id", .int 2)] := by
  simp [written, markedExtras, entries, extras, ofLive, Session.ofDeletedAndLive, Value.asDict?,
    Assoc.update, Assoc.set, softDeletedField]

/-- Of the two records, written by one request, a query with an open range finds the live one
alone. -/
theorem update_hides_deleted_of_two :
    ∃ q, PredicateSet.compile { ranges := [(.str "size", ⟨.int 3, .null⟩)] } .null = pure q ∧
      ((update 0 (.list [.record 0 "deleted", .record 1 "live"])).outcome
        .ofDeletedAndLive).2.requests = [(.host, .bulk (.str "posts") (.list [
          .dict [(.str "index", .dict [(.str "_index", .str "posts"), (.str "_id", .str "1")])],
          .dict (Record.ofDeleted.written true),
          .dict [(.str "index", .dict [(.str "_index", .str "posts"), (.str "_id", .str "2")])],
          .dict (Record.ofLive.written true)]))] ∧
      Backend.literal.accepts (.ofEntries (Record.ofDeleted.written true)) q.native = false ∧
      Backend.literal.accepts (.ofEntries (Record.ofLive.written true)) q.native = true := by
  have hmapped : ∀ v ∈ [Value.record 0 "deleted", .record 1 "live"], ∀ n r,
      recordOf? .ofDeletedAndLive v = some (n, r) → r.Mapped := by
    intro v hv n r hr
    obtain ⟨_, _, hr', hdeclared⟩ := Session.holdsDeclared_ofDeletedAndLive v hv
    rw [hr] at hr'
    cases hr'
    exact hdeclared.mapped
  have hp : PredicateSet.FiltersUnmarked { ranges := [(.str "size", ⟨.int 3, .null⟩)] } :=
    ⟨List.Pairwise.nil, .inr (by simp), by simp⟩
  have hitems : (Value.list [.record 0 "deleted", .record 1 "live"]).items? =
      some [.record 0 "deleted", .record 1 "live"] := rfl
  have hconnection : (Elasticsearch.connection 0).outcome .ofDeletedAndLive =
      (.ok .host, .ofDeletedAndLive) := rfl
  have hprovider : Session.ofDeletedAndLive.providers[0]? =
      some Session.ofDeletedAndLive.providers[0] := rfl
  obtain ⟨rs, hrequests, -, hall, hqueries⟩ := update_hides_deleted (B := .literal)
    (by simp [Backend.literal]) hconnection Connection.usable_host hprovider rfl hitems hmapped
  obtain rfl : rs = [.ofDeleted, .ofLive] :=
    (hall Session.holdsDeclared_ofDeletedAndLive).1 Session.holdsWritable_ofDeletedAndLive
  obtain ⟨q, hq, hhides⟩ := hqueries _ hp .null [] (.inr ⟨rfl, rfl⟩)
  have hdeleted := hhides .ofDeleted List.mem_cons_self rfl
    (by simp [Record.ofDeleted, Session.ofDeletedAndLive, softDeletedField])
  have hlive := hhides .ofLive (by simp) rfl
    (by simp [Record.ofLive, Session.ofDeletedAndLive, softDeletedField])
  refine ⟨q, hq, hrequests, hdeleted.deleted rfl _ (Document.readsMarkOf_ofEntries _), ?_⟩
  -- without the clause on the mark only the range is left, which the live record meets
  obtain rfl : q = PredicateSet.compileWith { ranges := [(.str "size", ⟨.int 3, .null⟩)] } [] := by
    have hsame := hq.symm.trans (PredicateSet.compile_of_query_empty rfl .null)
    exact Except.ok.inj (congrArg (fun act => (act.outcome .ofDeletedAndLive).1) hsame)
  rw [hlive.live rfl _ (Document.readsMarkOf_ofEntries _), Backend.accepts_native]
  have hrange : ∀ c ∈ PredicateSet.ownClauses { ranges := [(.str "size", ⟨.int 3, .null⟩)] },
      Backend.literal.holds (.ofEntries (Record.ofLive.written true)) c = true := by
    simp [PredicateSet.ownClauses, Record.written_ofLive, Backend.holds_rangeClause,
      Backend.within_document_iff, RangeBound.Contains, Document.ofEntries, Assoc.get?_cons,
      Backend.literal, Value.isNull]
  exact ⟨by simp [PredicateSet.compileWith], hrange, by simp [PredicateSet.compileWith],
    by simp [PredicateSet.compileWith]⟩

end SearchKit
