import SearchKit.Proofs.Query.Meaning
import SearchKit.Proofs.Write.Indexing

/-!
# The mark of soft deletion, written and asked for

A query with filters asks for the mark `0` whether soft deletion is on or not.  A document carries
a mark that the batch gives it only where soft deletion is on and the record takes part; otherwise
it has the field only if the record brings it along.

* `Record.mark?` : the mark in the document of a record, and `Record.get?_written_mark`.
* `accepts_written_iff` : **the document of a live record under filters that it meets**: the query
  accepts it exactly when its mark is `0`, which it is where the batch marks the record.
* `not_accepts_written_unmarked` : without a mark the query misses a document that meets all of its
  filters.
-/

namespace SearchKit

variable {r : Record} {softDelete : Bool}

/-! ### The mark in a document -/

/-- The mark of soft deletion in the document of a record: the identifier where it has that name,
else what the batch writes, else what the record itself holds under the name. -/
def Record.mark? (softDelete : Bool) (r : Record) : Option Value :=
  if r.keyName.sameKey (.str softDeletedField) then some r.key
  else if softDelete && r.softDelete then some (.int (if r.trashed then 1 else 0))
  else (r.extras.get? (.str softDeletedField)).or (r.entries.get? (.str softDeletedField))

theorem Record.get?_written_mark (h : r.Declared) :
    (r.written softDelete).get? (.str softDeletedField) = r.mark? softDelete := by
  have hextras : (r.markedExtras softDelete).get? (.str softDeletedField) =
      if softDelete && r.softDelete then some (.int (if r.trashed then 1 else 0))
      else r.extras.get? (.str softDeletedField) := by
    unfold markedExtras
    split
    · rw [Assoc.get?_set, if_pos (Value.sameKey_str_left.2 rfl)]
    · rfl
  rw [get?_written h.extras.distinct, hextras, mark?]
  split
  · rfl
  · split <;> rfl

theorem Record.mark?_of_marked (hlive : r.trashed = false) (hmarked : r.softDelete = true)
    (hname : r.keyName ≠ .str softDeletedField) : r.mark? true = some (.int 0) := by
  have hkey : ¬ r.keyName.sameKey (.str softDeletedField) = true :=
    mt Value.sameKey_str_right.1 hname
  rw [mark?, if_neg hkey, hmarked, hlive]
  rfl

/-! ### Filters alone -/

theorem PredicateSet.accepts_filters_iff {B : Backend} {d : Document} {p : PredicateSet}
    (hw : p.wheres.Distinct) (hquery : p.query = "") (hins : p.whereIns = [])
    (hnotIns : p.whereNotIns = []) (hranges : p.ranges = []) (hsome : p.wheres ≠ [])
    (hmark : ∀ e ∈ p.wheres, e.1 ≠ .str softDeletedField) :
    B.accepts d (p.compileWith []).native = true ↔
      (∀ e ∈ p.wheres, B.has d e.1 e.2 = true) ∧
        B.has d (.str softDeletedField) (.int 0) = true := by
  rw [accepts_compileWith_iff hw, hins]
  constructor
  · rintro ⟨hplain, -⟩
    exact ⟨hplain.wheres, hplain.unmarked (.inl hsome) hmark⟩
  · rintro ⟨hwheres, hzero⟩
    exact ⟨⟨fun h => absurd hquery h, hwheres, by simp [hranges], fun _ _ => hzero,
      by simp [hnotIns]⟩, le_refl _⟩

/-- Where a document meets the filters, only the mark is left to ask for. -/
theorem Record.Declared.accepts_written_filters_iff {B : Backend} {p : PredicateSet} (h : r.Declared)
    (hw : p.wheres.Distinct) (hquery : p.query = "") (hins : p.whereIns = [])
    (hnotIns : p.whereNotIns = []) (hranges : p.ranges = []) (hsome : p.wheres ≠ [])
    (hmark : ∀ e ∈ p.wheres, e.1 ≠ .str softDeletedField)
    (hmet : ∀ e ∈ p.wheres, B.has (Document.ofEntries (r.written softDelete)) e.1 e.2 = true) :
    B.accepts (Document.ofEntries (r.written softDelete)) (p.compileWith []).native = true ↔
      ∃ x, r.mark? softDelete = some x ∧ B.same x (.int 0) = true := by
  rw [PredicateSet.accepts_filters_iff hw hquery hins hnotIns hranges hsome hmark,
    Backend.has_ofEntries_iff, get?_written_mark h]
  exact and_iff_right hmet

/-- **The document of a live record under filters that it meets.**  For either setting of soft
deletion the batch of records of declared types is built exactly if the identifier of every record
with a searchable form has a text, and else there is no batch.  It holds the document of every live
record with a searchable form; and a query with filters alone, none of them on the mark, that the
document meets accepts it exactly when its mark of soft deletion is `0`.  So it does where soft
deletion is on, the record takes part and its identifier does not stand under the name of the
mark. -/
theorem accepts_written_iff (B : Backend) (softDelete : Bool) {s : Session} {records : Value}
    {vs : List Value} {p : PredicateSet} (hitems : records.items? = some vs)
    (hvs : ∀ v ∈ vs, s.HoldsDeclared v) (hw : p.wheres.Distinct) (hquery : p.query = "")
    (hins : p.whereIns = []) (hnotIns : p.whereNotIns = []) (hranges : p.ranges = [])
    (hsome : p.wheres ≠ []) (hmark : ∀ e ∈ p.wheres, e.1 ≠ .str softDeletedField)
    (fields : Value) :
    ∃ built s' q, (indexingBatch softDelete records).outcome s = (built, s') ∧
      p.compile fields = pure q ∧
      ((∃ b, built = .ok b) ↔ ∀ v ∈ vs, ∀ n r, recordOf? s v = some (n, r) →
        r.entries ≠ [] → r.key.hasText = true) ∧
      (∀ fault, built = .error fault → fault = .misuse .badValue) ∧
      ∀ b, built = .ok b →
      ∀ v ∈ vs, ∀ n r, recordOf? s v = some (n, r) → r.trashed = false → r.entries ≠ [] →
        .index r.collectionName r.key.text (r.written softDelete) ∈ b.operations ∧
        ((∀ e ∈ p.wheres, B.has (Document.ofEntries (r.written softDelete)) e.1 e.2 = true) →
          (B.accepts (Document.ofEntries (r.written softDelete)) q.native = true ↔
            ∃ x, r.mark? softDelete = some x ∧ B.same x (.int 0) = true) ∧
          (softDelete = true → r.softDelete = true → r.keyName ≠ .str softDeletedField →
            B.accepts (Document.ofEntries (r.written softDelete)) q.native = true)) := by
  obtain ⟨hbuilt, hrefused⟩ := indexingBatch_outcome softDelete hitems hvs
  have hcompile := PredicateSet.compile_of_query_empty hquery fields
  by_cases hall : ∀ v ∈ vs, s.HoldsWritable v
  swap
  · -- an identifier without a text leaves no batch to speak of
    obtain ⟨s', hs'⟩ := hrefused (by simpa using hall)
    refine ⟨.error (.misuse .badValue), s', _, hs', hcompile, ?_, ?_, ?_⟩
    · exact iff_of_false (by rintro ⟨b, ⟨⟩⟩) hall
    · rintro fault ⟨⟩
      rfl
    · rintro b ⟨⟩
  obtain ⟨b, s', hb, hoperations⟩ := hbuilt hall
  refine ⟨.ok b, s', p.compileWith [], hb, hcompile, iff_of_true ⟨b, rfl⟩ hall, ?_, ?_⟩
  · rintro fault ⟨⟩
  rintro b ⟨⟩ v hv n r hr hlive hentries
  have hdeclared : r.Declared := by
    obtain ⟨_, _, hr', hdeclared⟩ := hvs v hv
    rw [hr] at hr'
    cases hr'
    exact hdeclared
  have hwrite : s.write? softDelete v =
      some (.index r.collectionName r.key.text (r.written softDelete)) := by
    rw [Session.write?, hr]
    exact if_neg hentries
  refine ⟨?_, fun hmet => ?_⟩
  · rw [hoperations]
    exact List.mem_filterMap.2 ⟨v, hv, hwrite⟩
  have hiff := hdeclared.accepts_written_filters_iff hw hquery hins hnotIns hranges hsome hmark hmet
  refine ⟨hiff, ?_⟩
  rintro rfl hmarked hname
  exact hiff.2 ⟨.int 0, Record.mark?_of_marked hlive hmarked hname, B.same_refl _⟩

/-! ### A marked and an unmarked record -/

/-- A live record with one field beside its identifier. -/
def Record.ofStatus (softDelete : Bool) : Record where
  key := .int 1
  keyName := .str "id"
  document := .dict [(.str "status", .str "live")]
  collection := .str "table"
  metadata := .dict []
  softDelete := softDelete
  trashed := false

theorem Record.declared_ofStatus (softDelete : Bool) : (ofStatus softDelete).Declared where
  keyName := ⟨"id", rfl⟩
  collection := rfl
  document := .inl rfl
  entries := ⟨List.pairwise_singleton _ _, by simp [entries, ofStatus, Value.asDict?]⟩
  metadata := rfl
  extras := ⟨List.Pairwise.nil, by simp [extras, ofStatus, Value.asDict?]⟩

theorem holdsDeclared_ofStatus (softDelete : Bool) :
    ∀ v ∈ [Value.record 0 "first"],
      Session.HoldsDeclared { records := [.ofStatus softDelete] } v := by
  intro v hv
  rw [List.mem_singleton.1 hv]
  exact ⟨0, .ofStatus softDelete, rfl, Record.declared_ofStatus softDelete⟩

theorem holdsWritable_ofStatus (softDelete : Bool) :
    ∀ v ∈ [Value.record 0 "first"],
      Session.HoldsWritable { records := [.ofStatus softDelete] } v := by
  intro v hv n r hr _
  rw [List.mem_singleton.1 hv] at hr
  cases hr
  rfl

theorem written_ofStatus_marked : (Record.ofStatus true).written true =
    [(.str "status", .str "live"), (.str softDeletedField, .int 0), (.str "id", .int 1)] := by
  simp [Record.written, Record.markedExtras, Record.entries, Record.extras, Record.ofStatus,
    Value.asDict?, Assoc.update, Assoc.set, softDeletedField]

theorem written_ofStatus_unmarked : (Record.ofStatus false).written false =
    [(.str "status", .str "live"), (.str "id", .int 1)] := by
  simp [Record.written, Record.markedExtras, Record.entries, Record.extras, Record.ofStatus,
    Value.asDict?, Assoc.update, Assoc.set]

/-- With soft deletion on, a record that takes part is found under a filter that it meets. -/
theorem accepts_written_marked :
    ∃ b s' q, (indexingBatch true (.list [.record 0 "first"])).outcome
        { records := [.ofStatus true] } = (.ok b, s') ∧
      PredicateSet.compile { wheres := [(.str "status", .str "live")] } .null = pure q ∧
      .index "table" "1" ((Record.ofStatus true).written true) ∈ b.operations ∧
      Backend.literal.accepts (Document.ofEntries ((Record.ofStatus true).written true))
        q.native = true := by
  have hitems : (Value.list [.record 0 "first"]).items? = some [.record 0 "first"] := rfl
  obtain ⟨built, s', q, hb, hq, hbuilt, -, h⟩ := accepts_written_iff Backend.literal true
    (p := { wheres := [(.str "status", .str "live")] }) hitems (holdsDeclared_ofStatus true)
    (List.pairwise_singleton _ _) rfl rfl rfl rfl (by simp)
    (by simp [softDeletedField]) .null
  obtain ⟨b, rfl⟩ := hbuilt.2 (holdsWritable_ofStatus true)
  obtain ⟨hmem, haccepts⟩ := h b rfl _ List.mem_cons_self 0 (.ofStatus true) rfl rfl
    (by simp [Record.entries, Record.ofStatus, Value.asDict?])
  have hmet : ∀ e ∈ [((.str "status", .str "live") : Value × Value)], Backend.literal.has
      (Document.ofEntries ((Record.ofStatus true).written true)) e.1 e.2 = true := by
    rw [written_ofStatus_marked]
    simp [Backend.has_literal_iff, Document.ofEntries, Assoc.get?_cons]
  exact ⟨b, s', q, hb, hq, hmem,
    (haccepts hmet).2 rfl rfl (by simp [Record.ofStatus, softDeletedField])⟩

/-- With soft deletion off, a document that meets a filter is missed under it. -/
theorem not_accepts_written_unmarked :
    ∃ b s' q, (indexingBatch false (.list [.record 0 "first"])).outcome
        { records := [.ofStatus false] } = (.ok b, s') ∧
      PredicateSet.compile { wheres := [(.str "status", .str "live")] } .null = pure q ∧
      b.operations = [.index "table" "1" ((Record.ofStatus false).written false)] ∧
      (Record.ofStatus false).trashed = false ∧
      Backend.literal.has (Document.ofEntries ((Record.ofStatus false).written false))
        (.str "status") (.str "live") = true ∧
      Backend.literal.accepts (Document.ofEntries ((Record.ofStatus false).written false))
        q.native = false := by
  have hitems : (Value.list [.record 0 "first"]).items? = some [.record 0 "first"] := rfl
  obtain ⟨b, s', hb, hoperations⟩ := (indexingBatch_outcome false hitems
    (holdsDeclared_ofStatus false)).1 (holdsWritable_ofStatus false)
  refine ⟨b, s', _, hb, PredicateSet.compile_of_query_empty rfl .null, ?_, rfl, ?_, ?_⟩
  · rw [hoperations]
    rfl
  · rw [written_ofStatus_unmarked]
    simp [Backend.has_literal_iff, Document.ofEntries, Assoc.get?_cons]
  · have hiff := PredicateSet.accepts_filters_iff (B := .literal)
      (d := Document.ofEntries ((Record.ofStatus false).written false))
      (p := { wheres := [(.str "status", .str "live")] }) (List.pairwise_singleton _ _)
      rfl rfl rfl rfl (by simp) (by simp [softDeletedField])
    rw [Bool.eq_false_iff, ne_eq, hiff]
    rintro ⟨-, hzero⟩
    rw [written_ofStatus_unmarked] at hzero
    simp [Backend.has_literal_iff, Document.ofEntries, Assoc.get?_cons, softDeletedField] at hzero

end SearchKit
