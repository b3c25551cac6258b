import SearchKit.Proofs.Write.Indexing
import SearchKit.Proofs.Write.Sending

/-!
# Records written by one request

A batch is built record by record.  Building marks the records of the session on its way, keeps the
first collection that it meets, and ends at the first record that cannot be written; only a batch
that is built is sent.

* `Session.Resembles` : what building leaves of the records; it is the invariant of the building.
* `addRecord_ok`, `foldlM_addRecord_ok` : what a step and a run of the building have written when
  they go well.
* `update_requests` : **records written by an operation**: the one request that it makes, or none.
-/

namespace SearchKit

open Act

variable {s s' : Session} {softDelete : Bool}

/-! ### Records while a batch is built -/

namespace Record

variable {r r' : Record}

theorem mapped_ofKey (key : Value) : (ofKey key).Mapped where
  document := .inl rfl
  entries := List.pairwise_singleton _ _
  metadata := .inl rfl
  extras := List.Pairwise.nil

/-- A record is another one with its mark perhaps already set: it is written like that one. -/
structure Resembles (softDelete : Bool) (r r' : Record) : Prop where
  /-- The identifiers are the same. -/
  key : r'.key = r.key
  /-- The names of the identifiers are the same. -/
  keyName : r'.keyName = r.keyName
  /-- The searchable forms are the same. -/
  document : r'.document = r.document
  /-- The collections are the same. -/
  collection : r'.collection = r.collection
  /-- Marked, the metadata are the same. -/
  markedExtras : r'.markedExtras softDelete = r.markedExtras softDelete
  /-- Maps stay maps. -/
  mapped : r.Mapped → r'.Mapped

theorem Resembles.refl (softDelete : Bool) (r : Record) : Resembles softDelete r r :=
  ⟨rfl, rfl, rfl, rfl, rfl, id⟩

theorem Resembles.trans {r'' : Record} (h : Resembles softDelete r r')
    (h' : Resembles softDelete r' r'') : Resembles softDelete r r'' :=
  ⟨h'.key.trans h.key, h'.keyName.trans h.keyName, h'.document.trans h.document,
    h'.collection.trans h.collection, h'.markedExtras.trans h.markedExtras, h'.mapped ∘ h.mapped⟩

theorem Resembles.entries_eq (h : Resembles softDelete r r') : r'.entries = r.entries := by
  rw [entries, entries, h.document]

theorem Resembles.write?_eq (h : Resembles softDelete r r') :
    r'.write? softDelete = r.write? softDelete := by
  unfold write? written collectionName
  rw [h.entries_eq, h.key, h.keyName, h.collection, h.markedExtras]

theorem marked_ok (h : r.marked softDelete = .ok r') :
    Resembles softDelete r r' ∧ r'.extras = r.markedExtras softDelete := by
  unfold marked at h
  split at h
  · rename_i hmark
    unfold pushSoftDelete at h
    split at h
    · rename_i es hes
      have hextras : r.extras = es := by rw [extras, hes]; rfl
      have hr' : r' = r.markedAs softDelete := by
        cases h
        rw [markedAs, markedExtras, if_pos hmark, hextras]
      subst hr'
      refine ⟨⟨rfl, rfl, rfl, rfl, markedExtras_markedAs, fun hr => ?_⟩, rfl⟩
      exact ⟨hr.document, hr.entries, .inl rfl, distinct_markedExtras hr.extras softDelete⟩
    · cases h
  · rename_i hmark
    cases h
    exact ⟨.refl _ _, by rw [markedExtras, if_neg hmark]⟩

/-- What the backend reads of a record: the identifier has a text, the collection is named by a
text, and so are all fields of the document, the one of the identifier included. -/
structure Legible (softDelete : Bool) (r : Record) : Prop where
  /-- The identifier has a text. -/
  key : r.key.hasText = true
  /-- The collection is a text. -/
  collection : r.collection = .str r.collectionName
  /-- The name of the identifier is a text. -/
  keyName : ∃ name, r.keyName = .str name
  /-- The names of the fields are texts. -/
  written : ∀ e ∈ r.written softDelete, ∃ name, e.1 = .str name

theorem Resembles.legible (h : Resembles softDelete r r') (hr' : r'.Legible softDelete) :
    r.Legible softDelete := by
  obtain ⟨hkey, hcollection, hkeyName, hwritten⟩ := hr'
  refine ⟨?_, ?_, ?_, ?_⟩
  · rwa [h.key] at hkey
  · rwa [h.collection, collectionName, h.collection] at hcollection
  · rwa [h.keyName] at hkeyName
  · rwa [written, h.entries_eq, h.key, h.keyName, h.markedExtras] at hwritten

theorem Mapped.addDocument_ok (hr : r.Mapped) (hmarked : r.extras = r.markedExtras softDelete)
    {b b' : WriteBatch} (h : (do
      match ← r.indexDocument? with
      | none => return b
      | some document => return ← b.addIndex r document : Act WriteBatch).outcome s = (.ok b', s')) :
    s' = s ∧ b' = b.addWrite (r.write? softDelete) ∧ (r.entries ≠ [] → r.Legible softDelete) := by
  rw [hr.indexDocument?_eq] at h
  by_cases hnone : r.entries = []
  · rw [if_pos hnone] at h
    cases h
    refine ⟨rfl, ?_, fun hsome => absurd hnone hsome⟩
    rw [write?, if_pos hnone]
    rfl
  · rw [if_neg hnone] at h
    obtain ⟨found, s₁, hfound, h⟩ := eq_ok_of_bind h
    obtain ⟨document, s₂, hidentified, hfound⟩ := eq_ok_of_bind hfound
    obtain ⟨hidentify, rfl⟩ : r.identify (Assoc.update r.entries r.extras) = .ok document ∧
        s = s₂ := Prod.mk.inj hidentified
    cases hfound
    obtain ⟨hadd, rfl⟩ : b.addIndex r document = .ok b' ∧ s = s' := Prod.mk.inj h
    obtain rfl : document = r.written softDelete := by
      rw [written, ← hmarked]
      unfold identify at hidentify
      split at hidentify
      · cases hidentify; rfl
      · cases hidentify
    obtain ⟨hkey, hcollection, htext, rfl⟩ := addIndex_eq_ok_iff.1 hadd
    refine ⟨rfl, ?_, fun _ => ⟨hkey, hcollection, Assoc.key_text_of_set htext, htext⟩⟩
    rw [write?, if_neg hnone]
    rfl

/-- The parts of a bulk request that a record takes: a header with its own collection and the text
of its identifier, and its document. -/
def parts (softDelete : Bool) (r : Record) : List Value :=
  [.dict [(.str "index", .dict [(.str "_index", .str r.collectionName),
      (.str "_id", .str r.key.text)])],
    .dict (r.written softDelete)]

end Record

/-! ### One step of the building -/

/-- The record that a value is indexed as. -/
def Session.indexed? (s : Session) : Value → Option Record
  | .keyed _ key => some (.ofKey key)
  | v => (recordOf? s v).map fun found => found.2

theorem Session.mapped_of_indexed? {v : Value}
    (h : ∀ n r, recordOf? s v = some (n, r) → r.Mapped) {r : Record} (hr : s.indexed? v = some r) :
    r.Mapped := by
  have hrecord : ∀ r, (recordOf? s v).map (fun found => found.2) = some r → r.Mapped := by
    intro r hr
    obtain ⟨⟨n, r⟩, hn, rfl⟩ := Option.map_eq_some_iff.1 hr
    exact h n r hn
  cases v with
  | keyed id key => cases hr; exact Record.mapped_ofKey key
  | _ => exact hrecord r hr

theorem outcome_indexable (v : Value) : (indexable v).outcome s =
    (match s.indexed? v with
      | some r => .ok r
      | none => .error .noPart, s) := by
  cases v with
  | keyed id key => rfl
  | record id label =>
    rw [indexable, outcome_bind_ok (outcome_get s), Session.indexed?]
    · cases recordOf? s (.record id label) <;> rfl
    -- a record is not a bare key
    all_goals simp
  | _ => rfl

/-- Whatever a value is indexed as in the later session, it was a record like that before. -/
def Session.Resembles (softDelete : Bool) (s s' : Session) : Prop :=
  ∀ v r', s'.indexed? v = some r' → ∃ r, s.indexed? v = some r ∧ r.Resembles softDelete r'

/-- After a record is put in the place of another one, a value is indexed as before, or as that
record instead of the other one. -/
theorem indexed?_withRecord {n : Nat} {r r' found : Record} {w : Value}
    (hn : s.records[n]? = some r) (hw : (s.withRecord n r').indexed? w = some found) :
    s.indexed? w = some found ∨ found = r' ∧ s.indexed? w = some r := by
  cases w with
  | record m label =>
    obtain ⟨hlt, -⟩ := List.getElem?_eq_some_iff.1 hn
    by_cases hm : m = n
    · subst hm
      right
      simp_all [Session.indexed?, recordOf?, Session.withRecord]
    · left
      rw [← hw]
      simp [Session.indexed?, recordOf?, Session.withRecord, List.getElem?_set_ne (Ne.symm hm)]
  | _ => exact .inl hw

theorem indexed?_putRecord {v w : Value} {r r' found : Record} (hv : s.indexed? v = some r)
    (hput : (putRecord v r').outcome s = (.ok (), s')) (hw : s'.indexed? w = some found) :
    s.indexed? w = some found ∨ found = r' ∧ s.indexed? w = some r := by
  cases v with
  | record n label =>
    cases hput
    have hn : s.records[n]? = some r := by simpa [Session.indexed?, recordOf?] using hv
    exact indexed?_withRecord hn hw
  | _ => cases hput; exact .inl hw

theorem Session.Resembles.putRecord {s₀ : Session} (hs : s₀.Resembles softDelete s) {v : Value}
    {r r' : Record} (hv : s.indexed? v = some r) (hr : r.Resembles softDelete r')
    (hput : (putRecord v r').outcome s = (.ok (), s')) : s₀.Resembles softDelete s' := by
  intro w found hw
  rcases indexed?_putRecord hv hput hw with hw | ⟨rfl, hw⟩
  · exact hs w found hw
  · obtain ⟨r₀, hr₀, hlike⟩ := hs w r hw
    exact ⟨r₀, hr₀, hlike.trans hr⟩

/-- A step that goes well adds the write of its record, as it was when the building began. -/
theorem addRecord_ok {s₀ : Session} (hs : s₀.Resembles softDelete s) {b b' : WriteBatch} {v : Value}
    (hmapped : ∀ r, s₀.indexed? v = some r → r.Mapped)
    (h : (addRecord softDelete b v).outcome s = (.ok b', s')) :
    s₀.Resembles softDelete s' ∧ ∃ r, s₀.indexed? v = some r ∧
      b' = b.addWrite (r.write? softDelete) ∧ (r.entries ≠ [] → r.Legible softDelete) := by
  obtain ⟨r₁, s₁, hread, hrest⟩ := eq_ok_of_bind h
  obtain ⟨r', s₂, hmarking, hrest'⟩ := eq_ok_of_bind hrest
  obtain ⟨⟨⟩, s₃, hput, hwrite⟩ := eq_ok_of_bind hrest'
  -- what is read is a record as it was at the start, but for its mark
  obtain ⟨hr₁, rfl⟩ : s.indexed? v = some r₁ ∧ s₁ = s := by
    rw [outcome_indexable] at hread
    cases hv : s.indexed? v with
    | none => rw [hv] at hread; cases hread
    | some r => rw [hv] at hread; cases hread; exact ⟨rfl, rfl⟩
  obtain ⟨hmarked, rfl⟩ : r₁.marked softDelete = .ok r' ∧ s₁ = s₂ := Prod.mk.inj hmarking
  obtain ⟨r, hr, hlike⟩ := hs v r₁ hr₁
  obtain ⟨hlikewise, hextras⟩ := Record.marked_ok hmarked
  have hr' : r.Resembles softDelete r' := hlike.trans hlikewise
  -- so it is written as it would have been at the start
  obtain ⟨rfl, rfl, hlegible⟩ := (hr'.mapped (hmapped r hr)).addDocument_ok
    (hextras.trans hlikewise.markedExtras.symm) hwrite
  refine ⟨hs.putRecord hr₁ hlikewise hput, r, hr, by rw [hr'.write?_eq], fun hsome => ?_⟩
  exact hr'.legible (hlegible (hr'.entries_eq ▸ hsome))

/-! ### The whole batch -/

theorem foldlM_addRecord_ok {s₀ : Session} (hs : s₀.Resembles softDelete s) {vs : List Value}
    {b b' : WriteBatch} (hmapped : ∀ v ∈ vs, ∀ r, s₀.indexed? v = some r → r.Mapped)
    (h : (vs.foldlM (addRecord softDelete) b).outcome s = (.ok b', s')) :
    ∃ rs : List Record, vs.map s₀.indexed? = rs.map some ∧
      b' = (rs.map (Record.write? softDelete)).foldl WriteBatch.addWrite b ∧
      ∀ r ∈ rs, r.entries ≠ [] → r.Legible softDelete := by
  induction vs generalizing s b with
  | nil =>
    cases h
    exact ⟨[], rfl, rfl, by simp⟩
  | cons v vs ih =>
    rw [List.foldlM_cons] at h
    obtain ⟨b₁, s₁, hstep, hrest⟩ := eq_ok_of_bind h
    obtain ⟨hs₁, r, hr, rfl, hlegible⟩ := addRecord_ok hs (hmapped v List.mem_cons_self) hstep
    obtain ⟨rs, hrs, rfl, hall⟩ :=
      ih hs₁ (fun w hw => hmapped w (List.mem_cons_of_mem _ hw)) hrest
    refine ⟨r :: rs, ?_, rfl, List.forall_mem_cons.2 ⟨hlegible, hall⟩⟩
    rw [List.map_cons, List.map_cons, hr, hrs]

/-! ### The operation -/

/-- The requests that write records: one for the collection of the first record, with the parts of
all of them, and none where there is no record. -/
def bulkRequests (via : Connection) (softDelete : Bool) :
    List Record → List (Connection × Request)
  | [] => []
  | r :: rs => [(via, .bulk (.str r.collectionName)
      (.list ((r :: rs).flatMap (Record.parts softDelete))))]

theorem filterMap_write? (softDelete : Bool) (rs : List Record) :
    (rs.map (Record.write? softDelete)).filterMap id =
      (rs.filter fun r => r.entries ≠ []).map fun r =>
        .index r.collectionName r.key.text (r.written softDelete) := by
  induction rs with
  | nil => rfl
  | cons r rs ih =>
    rw [List.map_cons, List.filterMap_cons, ih, List.filter_cons]
    by_cases hnone : r.entries = [] <;> simp [Record.write?, hnone]

theorem requests_foldl_addWrite (via : Connection) (softDelete : Bool) (rs : List Record) :
    ((rs.map (Record.write? softDelete)).foldl WriteBatch.addWrite {}).requests via =
      bulkRequests via softDelete (rs.filter fun r => r.entries ≠ []) := by
  have hoperations := operations_foldl_addWrite (rs.map (Record.write? softDelete)) {}
  have hcollection := collection_foldl_addWrite (rs.map (Record.write? softDelete)) {}
  rw [filterMap_write?] at hoperations hcollection
  rw [WriteBatch.requests, WriteBatch.isEmpty, WriteBatch.native, hoperations, hcollection]
  cases rs.filter fun r => r.entries ≠ [] with
  | nil => rfl
  | cons r kept =>
    have hnative : ((r :: kept).map fun r => .index r.collectionName r.key.text
        (r.written softDelete)).flatMap WriteOperation.native =
        (r :: kept).flatMap (Record.parts softDelete) := List.flatMap_map _ _ _
    rw [bulkRequests, ← hnative]
    rfl

open Elasticsearch (connection update)

/-- **Records written by an operation.**  An operation that has its connection builds a batch of its
records.  If that fails, the operation fails with the same fault and has made no request.  Else
every item is indexed as a record, and the operation makes one bulk request, or none where no record
has a searchable form: a header and a document for each record that has one, in the order of the
items, addressed to the collection of the first of them.  Its identifier has a text, which the header
names beside the record's own collection; the document holds the identifier under its name,
elsewhere what the metadata hold as they are marked, and else what the searchable form holds. -/
theorem update_requests {s₀ : Session} {id : Nat} {via : Connection} {p : Provider}
    (hconnection : (connection id).outcome s = (.ok via, s₀)) (hvia : via.Usable)
    (hp : s₀.providers[id]? = some p) (hsoft : (p.settings.getD "soft_delete").truthy = softDelete)
    (records : Value) :
    (∀ fault s', (indexingBatch softDelete records).outcome s₀ = (.error fault, s') →
      (update id records).outcome s = (.error fault, s') ∧ s'.requests = s.requests) ∧
    ∀ vs, records.items? = some vs → (∀ v ∈ vs, ∀ n r, recordOf? s₀ v = some (n, r) → r.Mapped) →
      ∀ b s', (indexingBatch softDelete records).outcome s₀ = (.ok b, s') →
      ∃ rs : List Record, vs.map s₀.indexed? = rs.map some ∧
        ((update id records).outcome s).2.requests =
          s.requests ++ bulkRequests via softDelete (rs.filter fun r => r.entries ≠ []) ∧
        ∀ r ∈ rs, r.entries ≠ [] →
          r.key.hasText = true ∧ r.collection = .str r.collectionName ∧
          (r.written softDelete).TextKeyed ∧ ∃ keyName, r.keyName = .str keyName ∧
            ∀ name, Assoc.field? name (r.written softDelete) =
              if name = keyName then some r.key
              else (Assoc.field? name (r.markedExtras softDelete)).or
                (Assoc.field? name r.entries) := by
  have hupdate : (update id records).outcome s =
      (indexingBatch softDelete records >>= fun b => do
        return Response.withNative .null (← sendBatch via b)).outcome s₀ := by
    rw [update, outcome_bind_ok hconnection, outcome_bind_ok (provider_outcome hp), hsoft]
  have hconnected : s₀.requests = s.requests := (keeps_requests_connection id).after hconnection
  have hbuilt : ∀ ends s', (indexingBatch softDelete records).outcome s₀ = (ends, s') →
      s'.requests = s.requests := fun ends s' hends =>
    ((keeps_indexingBatch apart_requests softDelete records).after hends).trans hconnected
  refine ⟨fun fault s' hfault => ?_, fun vs hitems hmapped b s' hb => ?_⟩
  · rw [hupdate, outcome_bind_error hfault]
    exact ⟨rfl, hbuilt _ _ hfault⟩
  · have hfold : (vs.foldlM (addRecord softDelete) {}).outcome s₀ = (.ok b, s') := by
      rwa [indexingBatch, foldItems_of_items hitems] at hb
    -- building a batch may add marks to records, but each stays as good as it was for the batch
    have hstart : s₀.Resembles softDelete s₀ := fun v r hr => ⟨r, hr, .refl softDelete r⟩
    obtain ⟨rs, hrs, rfl, hlegible⟩ := foldlM_addRecord_ok hstart
      (fun v hv r hr => Session.mapped_of_indexed? (hmapped v hv) hr) hfold
    refine ⟨rs, hrs, ?_, fun r hr hsome => ?_⟩
    · rw [hupdate, outcome_bind_ok hb, asks_sendBatch_answer hvia, hbuilt _ _ hb,
        requests_foldl_addWrite]
    · obtain ⟨v, hv, hvr⟩ : ∃ v ∈ vs, s₀.indexed? v = some r :=
        List.mem_map.1 (hrs ▸ List.mem_map_of_mem hr)
      have hmaps : r.Mapped := Session.mapped_of_indexed? (hmapped v hv) hvr
      obtain ⟨hkey, hcollection, ⟨keyName, hname⟩, htext⟩ := hlegible r hr hsome
      refine ⟨hkey, hcollection, ⟨hmaps.distinct_written softDelete, htext⟩, keyName, hname,
        fun name => ?_⟩
      rw [Assoc.field?, Record.get?_written hmaps.extras, hname, Value.sameKey_str]
      exact if_congr (beq_iff_eq.trans eq_comm) rfl rfl

/-- A provider with soft deletion on and an open connection; a deleted record that overrides a field
of its searchable form, a record that opts out and a record of another collection. -/
def Session.ofMixedRecords : Session where
  records := [
    { key := .int 7, keyName := .str "id", collection := .str "posts"
      document := .dict [(.str "title", .str "draft"), (.str "size", .int 1)]
      metadata := .dict [(.str "title", .str "final")], softDelete := true, trashed := true },
    { key := .int 8, keyName := .str "id", collection := .str "posts"
      document := .null, metadata := .null, softDelete := false, trashed := false },
    { key := .str "about", keyName := .str "slug", collection := .str "pages"
      document := .dict [(.str "slug", .null)]
      metadata := .dict [], softDelete := false, trashed := false }]
  providers := [{
    kind := .elasticsearch, settings := [("soft_delete", .bool true)]
    connection := some .host, ready := true }]

/-- The records of both collections, the first of them twice and the one that opts out in front. -/
def mixedRecords : List Value :=
  [.record 1 "none", .record 0 "post", .record 2 "page", .record 0 "post"]

theorem mapped_ofMixedRecords {v : Value} (n : Nat) (r : Record)
    (hv : recordOf? .ofMixedRecords v = some (n, r)) : r.Mapped := by
  obtain ⟨-, hn⟩ := recordOf?_eq_some_iff.1 hv
  rcases n with _ | _ | _ | n <;> cases hn
  · refine ⟨.inl rfl, ?_, .inl rfl, List.pairwise_singleton _ _⟩
    simp [Record.entries, Value.asDict?, Assoc.Distinct]
  · exact ⟨.inr rfl, List.Pairwise.nil, .inr rfl, List.Pairwise.nil⟩
  · exact ⟨.inl rfl, List.pairwise_singleton _ _, .inl rfl, List.Pairwise.nil⟩

theorem update_requests_of_mixed_records :
    ((update 0 (.list mixedRecords)).outcome .ofMixedRecords).2.requests =
      [(.host, .bulk (.str "posts") (.list [
        .dict [(.str "index", .dict [(.str "_index", .str "posts"), (.str "_id", .str "7")])],
        .dict [(.str "title", .str "final"), (.str "size", .int 1),
          (.str "__soft_deleted", .int 1), (.str "id", .int 7)],
        .dict [(.str "index", .dict [(.str "_index", .str "pages"), (.str "_id", .str "about")])],
        .dict [(.str "slug", .str "about")],
        .dict [(.str "index", .dict [(.str "_index", .str "posts"), (.str "_id", .str "7")])],
        .dict [(.str "title", .str "final"), (.str "size", .int 1),
          (.str "__soft_deleted", .int 1), (.str "id", .int 7)]]))] := by
  have hconnection : (connection 0).outcome .ofMixedRecords = (.ok .host, .ofMixedRecords) := rfl
  have hbuilt : ∃ b s', (indexingBatch true (.list mixedRecords)).outcome .ofMixedRecords =
      (.ok b, s') := ⟨_, _, rfl⟩
  obtain ⟨b, s', hb⟩ := hbuilt
  obtain ⟨rs, hrs, hrequests, -⟩ := (update_requests hconnection Connection.usable_host
    (p := Session.ofMixedRecords.providers[0]) rfl rfl (.list mixedRecords)).2 _ rfl
    (fun _ _ => mapped_ofMixedRecords) b s' hb
  obtain rfl : rs = [1, 0, 2, 0].map fun n => Session.ofMixedRecords.records[n]! :=
    List.map_injective_iff.2 (fun _ _ => Option.some.inj) hrs.symm
  rw [hrequests]
  rfl

end SearchKit
