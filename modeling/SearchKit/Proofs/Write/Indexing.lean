import SearchKit.Proofs.Schema.Checking
import SearchKit.Proofs.Session.Objects
import SearchKit.Proofs.Session.Reading
import SearchKit.Proofs.Value.Entries
import SearchKit.Proofs.Write.Decoding
import SearchKit.Write.Request

/-!
# The documents of a batch

Building a batch marks each record and writes its document.  Marking changes the records of the
session, so what a later item reads can have been changed by an earlier one; but a record that is
marked once more stays as it is, so every record is written as it was at the start.

* `Record.Mapped`, `Record.Declared` : a record with maps for its parts, and one with parts of all
  the types that an application declares.
* `Record.written` : the document of such a record, and `Record.write?` the write that it takes,
  which `Record.writing` refuses where the identifier is too long to be written.
* `addRecord_outcome` : one step of the building, and `foldlM_addRecord_outcome` a run of them.
* `indexingBatch_outcome` : **the batch of a sequence of records**: a write for each record with a
  searchable form, in the order of the records.
-/

namespace SearchKit

open Act

/-! ### Records of declared types -/

namespace Record

/-- The entries of the searchable form. -/
def entries (r : Record) : Entries := r.document.asDict?.getD []

/-- The entries of the metadata. -/
def extras (r : Record) : Entries := r.metadata.asDict?.getD []

/-- The name of the collection. -/
def collectionName (r : Record) : String := r.collection.asStr?.getD ""

/-- The searchable form and the metadata are maps that hold each key once, or they are missing. -/
structure Mapped (r : Record) : Prop where
  /-- The searchable form is a map or missing. -/
  document : r.document = .dict r.entries ∨ r.document.truthy = false
  /-- The searchable form holds each key once. -/
  entries : r.entries.Distinct
  /-- The metadata are a map or missing. -/
  metadata : r.metadata = .dict r.extras ∨ r.metadata.truthy = false
  /-- The metadata hold each key once. -/
  extras : r.extras.Distinct

/-- A record with parts of the declared types: names are texts, the metadata are a map with text
keys, and so is the searchable form, which may be null. -/
structure Declared (r : Record) : Prop where
  /-- The name of the identifier is a text. -/
  keyName : ∃ name, r.keyName = .str name
  /-- The collection is a text. -/
  collection : r.collection = .str r.collectionName
  /-- The searchable form is a map or null. -/
  document : r.document = .dict r.entries ∨ r.document = .null
  /-- The searchable form has text keys. -/
  entries : r.entries.TextKeyed
  /-- The metadata are a map. -/
  metadata : r.metadata = .dict r.extras
  /-- The metadata have text keys. -/
  extras : r.extras.TextKeyed

theorem Declared.mapped {r : Record} (h : r.Declared) : r.Mapped where
  document := h.document.imp_right fun hnull => by rw [hnull]; rfl
  entries := h.entries.distinct
  metadata := .inl h.metadata
  extras := h.extras.distinct

/-! ### Marked records and their documents -/

variable {r : Record} {softDelete : Bool}

/-- The metadata with the mark of soft deletion where the record is to carry it. -/
def markedExtras (softDelete : Bool) (r : Record) : Entries :=
  if softDelete && r.softDelete then
    Assoc.set (.str softDeletedField) (.int (if r.trashed then 1 else 0)) r.extras
  else r.extras

/-- The record with its metadata marked. -/
def markedAs (softDelete : Bool) (r : Record) : Record :=
  { r with metadata := .dict (r.markedExtras softDelete) }

/-- The document of the record: the searchable form, over it the metadata as they are marked, over
both the identifier. -/
def written (softDelete : Bool) (r : Record) : Entries :=
  Assoc.set r.keyName r.key (Assoc.update r.entries (r.markedExtras softDelete))

/-- The write that the record takes, none without a searchable form. -/
def write? (softDelete : Bool) (r : Record) : Option WriteOperation :=
  if r.entries = [] then none
  else some (.index r.collectionName r.key.text (r.written softDelete))

/-- The record takes no write, or one whose identifier has a text. -/
def Writable (r : Record) : Prop := r.entries ≠ [] → r.key.hasText = true

instance (r : Record) : Decidable r.Writable := inferInstanceAs (Decidable (_ → _))

/-- The write that the record takes, or why it cannot be written. -/
def writing (softDelete : Bool) (r : Record) : Except Fault (Option WriteOperation) :=
  if r.Writable then .ok (r.write? softDelete) else .error (.misuse .badValue)

theorem writing_of_writable (h : r.Writable) :
    r.writing softDelete = .ok (r.write? softDelete) := if_pos h

theorem writing_of_not_writable (h : ¬ r.Writable) :
    r.writing softDelete = .error (.misuse .badValue) := if_neg h

theorem distinct_markedExtras (h : r.extras.Distinct) (softDelete : Bool) :
    (r.markedExtras softDelete).Distinct := by
  unfold markedExtras
  split
  · exact h.set _ _
  · exact h

theorem Mapped.distinct_written (h : r.Mapped) (softDelete : Bool) :
    (r.written softDelete).Distinct := (h.entries.update _).set _ _

/-- The fields of the document of a record: the identifier under its name, elsewhere what the
metadata hold as they are marked, and else what the searchable form holds. -/
theorem get?_written (h : r.extras.Distinct) (softDelete : Bool) (name : String) :
    Assoc.get? (.str name) (r.written softDelete) =
      if r.keyName.sameKey (.str name) then some r.key
      else (Assoc.get? (.str name) (r.markedExtras softDelete)).or
        (Assoc.get? (.str name) r.entries) := by
  rw [written, Assoc.get?_set, Assoc.get?_update _ (distinct_markedExtras h softDelete)]

theorem markedExtras_markedAs :
    (r.markedAs softDelete).markedExtras softDelete = r.markedExtras softDelete := by
  change markedExtras softDelete { r with metadata := .dict (r.markedExtras softDelete) } = _
  unfold markedExtras extras
  split
  · simp [Value.asDict?, Assoc.set_set]
  · simp [Value.asDict?]

theorem write?_markedAs : (r.markedAs softDelete).write? softDelete = r.write? softDelete := by
  unfold write? written
  rw [markedExtras_markedAs]
  rfl

theorem writing_markedAs :
    (r.markedAs softDelete).writing softDelete = r.writing softDelete := by
  rw [writing, write?_markedAs]
  rfl

theorem Declared.textKeyed_markedExtras (h : r.Declared) (softDelete : Bool) :
    (r.markedExtras softDelete).TextKeyed := by
  unfold markedExtras
  split
  · exact h.extras.set _ _
  · exact h.extras

theorem Declared.declared_markedAs (h : r.Declared) (softDelete : Bool) :
    (r.markedAs softDelete).Declared :=
  ⟨h.keyName, h.collection, h.document, h.entries, rfl, h.textKeyed_markedExtras softDelete⟩

theorem Declared.textKeyed_written (h : r.Declared) (softDelete : Bool) :
    (r.written softDelete).TextKeyed := by
  obtain ⟨name, hname⟩ := h.keyName
  unfold written
  rw [hname]
  exact (h.entries.update (h.textKeyed_markedExtras softDelete)).set name r.key

theorem Declared.marked_eq (h : r.Declared) :
    r.marked softDelete = .ok (r.markedAs softDelete) := by
  unfold marked pushSoftDelete markedAs markedExtras
  rw [h.metadata]
  split
  · rfl
  · rw [← h.metadata]

theorem entries_of_missing (h : r.document.truthy = false) : r.entries = [] := by
  unfold entries
  cases hd : r.document with
  | dict es => simpa [hd, Value.truthy, Value.asDict?] using h
  | _ => rfl

theorem extras_of_missing (h : r.metadata.truthy = false) : r.extras = [] := by
  unfold extras
  cases hm : r.metadata with
  | dict es => simpa [hm, Value.truthy, Value.asDict?] using h
  | _ => rfl

theorem Mapped.indexDocument?_eq (h : r.Mapped) :
    r.indexDocument? = if r.entries = [] then pure none
      else do return some (← r.identify (Assoc.update r.entries r.extras)) := by
  unfold indexDocument?
  by_cases hnone : r.entries = []
  · -- a map without entries counts as missing
    have hmissing : r.document.truthy = false := by
      rcases h.document with hd | hd
      · rw [hd, hnone]; rfl
      · exact hd
    simp [hnone, hmissing]
  · have hd : r.document = .dict r.entries :=
      h.document.resolve_right fun hmissing => hnone (entries_of_missing hmissing)
    have hpresent : r.document.truthy = true := by
      rw [hd]
      simpa [Value.truthy] using hnone
    by_cases hgiven : r.metadata.truthy = true
    · have hm : r.metadata = .dict r.extras := h.metadata.resolve_right (by simp [hgiven])
      rw [if_neg hnone, hpresent, hgiven, hd, hm]
      rfl
    · rw [if_neg hnone, hpresent, extras_of_missing (Bool.not_eq_true _ ▸ hgiven), hd]
      simp [hgiven, Assoc.update]

theorem Declared.indexDocument?_eq (h : r.Declared) :
    (r.markedAs softDelete).indexDocument? =
      pure (if r.entries = [] then none else some (r.written softDelete)) := by
  obtain ⟨name, hname⟩ := h.keyName
  have hidentify : (r.markedAs softDelete).identify (Assoc.update (r.markedAs softDelete).entries
      (r.markedAs softDelete).extras) = .ok (r.written softDelete) := by
    have hhashable : (r.markedAs softDelete).keyName.hashable = true := by
      change r.keyName.hashable = true
      rw [hname]
      rfl
    rw [identify, if_pos hhashable]
    rfl
  have hentries : (r.markedAs softDelete).entries = r.entries := rfl
  rw [(h.declared_markedAs softDelete).mapped.indexDocument?_eq, hidentify, hentries]
  split <;> rfl

/-- An index operation is built of a text for its collection, an identifier that has a text and a
document with text keys, and of nothing else. -/
theorem indexOperation_eq_ok_iff {document : Entries} {op : WriteOperation} :
    r.indexOperation document = .ok op ↔ r.key.hasText = true ∧
      r.collection = .str r.collectionName ∧ (∀ e ∈ document, ∃ name, e.1 = .str name) ∧
        op = .index r.collectionName r.key.text document := by
  let es := Entries.ofFields [
    ("collection", r.collection), ("id", .str r.key.text), ("document", .dict document)]
  constructor
  · intro h
    obtain ⟨text, hspelled, h⟩ := exists_ok_of_bind h
    obtain ⟨hkey, rfl⟩ := Value.spell_eq_ok_iff.1 hspelled
    obtain ⟨checked, hchecked, hof⟩ := exists_ok_of_bind h
    have hcheck : indexOperationShape.check (.dict es) = .ok checked :=
      ModelKind.ofValue_eq_ok_iff.1 hchecked
    obtain ⟨collection, id, document', hcollection, hid, hdocument, htext, rfl⟩ :=
      check_indexOperation_iff.1 hcheck
    have hname : r.collection = .str collection := Option.some.inj hcollection
    have hown : r.collectionName = collection := by rw [collectionName, hname]; rfl
    cases hid
    cases hdocument
    cases hof
    exact ⟨hkey, by rw [hname, hown], htext, by rw [hown]⟩
  · rintro ⟨hkey, hcollection, htext, rfl⟩
    have hes : es.field? "collection" = some (.str r.collectionName) := by
      rw [← hcollection]
      rfl
    have hcheck : indexOperationShape.check (.dict es) = .ok
        (WriteOperation.index r.collectionName r.key.text document).toValue :=
      check_indexOperation_iff.2 ⟨_, _, _, hes, rfl, rfl, htext, rfl⟩
    have hchecked : ModelKind.indexOperation.ofValue (.dict es) = .ok
        (WriteOperation.index r.collectionName r.key.text document).toValue :=
      ModelKind.ofValue_eq_ok_iff.2 hcheck
    rw [indexOperation, Value.spell_of_hasText hkey]
    change ModelKind.indexOperation.ofValue (.dict es) >>= _ = _
    rw [hchecked]
    rfl

theorem addIndex_eq_ok_iff {b b' : WriteBatch} {document : Entries} :
    b.addIndex r document = .ok b' ↔ r.key.hasText = true ∧
      r.collection = .str r.collectionName ∧ (∀ e ∈ document, ∃ name, e.1 = .str name) ∧
        b' = b.add r.collectionName (.index r.collectionName r.key.text document) := by
  constructor
  · intro h
    obtain ⟨op, hop, hadd⟩ := exists_ok_of_bind h
    obtain ⟨hkey, hcollection, htext, rfl⟩ := indexOperation_eq_ok_iff.1 hop
    cases hadd
    exact ⟨hkey, hcollection, htext, rfl⟩
  · rintro ⟨hkey, hcollection, htext, rfl⟩
    rw [WriteBatch.addIndex, indexOperation_eq_ok_iff.2 ⟨hkey, hcollection, htext, rfl⟩]
    rfl

theorem addIndex_of_not_hasText (h : r.key.hasText = false) (b : WriteBatch) (document : Entries) :
    b.addIndex r document = .error (.misuse .badValue) := by
  rw [WriteBatch.addIndex, indexOperation, Value.spell_of_not_hasText h]
  rfl

end Record

/-! ### One step of the building -/

variable {s : Session} {softDelete : Bool}

/-- The write that a value takes, none for what is no record. -/
def Session.write? (softDelete : Bool) (s : Session) (v : Value) : Option WriteOperation :=
  (recordOf? s v).bind fun found => found.2.write? softDelete

/-- The value is a record of declared types. -/
def Session.HoldsDeclared (s : Session) (v : Value) : Prop :=
  ∃ n r, recordOf? s v = some (n, r) ∧ r.Declared

/-- The batch with a further write, if there is one. -/
def WriteBatch.addWrite (b : WriteBatch) : Option WriteOperation → WriteBatch
  | some (.index collection id document) => b.add collection (.index collection id document)
  | some (.delete collection id) => b.add collection (.delete collection id)
  | none => b

/-- The collection of a write. -/
def WriteOperation.collection : WriteOperation → String
  | .index collection _ _ | .delete collection _ => collection

theorem addWrite_some (b : WriteBatch) (op : WriteOperation) :
    b.addWrite (some op) = b.add op.collection op := by
  cases op <;> rfl

theorem operations_addWrite (b : WriteBatch) (w : Option WriteOperation) :
    (b.addWrite w).operations = b.operations ++ w.toList := by
  unfold WriteBatch.addWrite
  split <;> simp [WriteBatch.add]

/-- Adding a record of declared types adds its write, if it can be written, and leaves the record
marked in any case. -/
theorem addRecord_outcome {b : WriteBatch} {v : Value} {n : Nat} {r : Record}
    (hv : recordOf? s v = some (n, r)) (hr : r.Declared) :
    (addRecord softDelete b v).outcome s =
      ((r.writing softDelete).map b.addWrite, s.withRecord n (r.markedAs softDelete)) := by
  obtain ⟨⟨label, rfl⟩, -⟩ := recordOf?_eq_some_iff.1 hv
  have hindexable : (indexable (.record n label)).outcome s = (.ok r, s) := by
    unfold indexable
    dsimp only
    rw [outcome_bind_ok (outcome_get s), hv]
    rfl
  have hput : (putRecord (.record n label) (r.markedAs softDelete)).outcome s =
      (.ok (), s.withRecord n (r.markedAs softDelete)) := rfl
  unfold addRecord
  rw [outcome_bind_ok hindexable, hr.marked_eq, Act.lift_ok, pure_bind, outcome_bind_ok hput,
    hr.indexDocument?_eq, pure_bind]
  by_cases hnone : r.entries = []
  · have hwritable : r.Writable := fun hsome => absurd hnone hsome
    rw [if_pos hnone, Record.writing_of_writable hwritable, Record.write?, if_pos hnone]
    rfl
  rw [if_neg hnone]
  dsimp only
  cases hkey : r.key.hasText with
  | true =>
    have hadd : b.addIndex (r.markedAs softDelete) (r.written softDelete) = .ok (b.add
        r.collectionName (.index r.collectionName r.key.text (r.written softDelete))) :=
      Record.addIndex_eq_ok_iff.2
        ⟨hkey, hr.collection, (hr.textKeyed_written softDelete).text, rfl⟩
    rw [hadd, Record.writing_of_writable fun _ => hkey, Record.write?, if_neg hnone]
    rfl
  | false =>
    have hlong : ¬ r.Writable := fun h => by simp [h hnone] at hkey
    have hadd : b.addIndex (r.markedAs softDelete) (r.written softDelete) =
        .error (.misuse .badValue) := Record.addIndex_of_not_hasText hkey b _
    rw [hadd, Record.writing_of_not_writable hlong]
    rfl

/-- The write that a value takes, none for what is no record, or why it cannot be written. -/
def Session.writing (softDelete : Bool) (s : Session) (v : Value) :
    Except Fault (Option WriteOperation) :=
  match recordOf? s v with
  | some (_, r) => r.writing softDelete
  | none => .ok none

theorem writing_withRecord {n : Nat} {r : Record} (hn : s.records[n]? = some r) :
    Session.writing softDelete (s.withRecord n (r.markedAs softDelete)) =
      Session.writing softDelete s := by
  funext w
  rw [Session.writing, Session.writing, recordOf?_withRecord hn]
  rcases hw : recordOf? s w with _ | ⟨m, found⟩
  · rfl
  · obtain ⟨-, hm⟩ := recordOf?_eq_some_iff.1 hw
    by_cases hmn : m = n
    · -- the record itself, marked once already
      subst hmn
      obtain rfl := Option.some.inj (hn.symm.trans hm)
      simp [Record.writing_markedAs]
    · simp [hmn]

theorem holdsDeclared_withRecord {w : Value} {n : Nat} {r : Record}
    (hn : s.records[n]? = some r) (hr : r.Declared) (hw : s.HoldsDeclared w) :
    (s.withRecord n (r.markedAs softDelete)).HoldsDeclared w := by
  obtain ⟨m, found, hfound, hdeclared⟩ := hw
  unfold Session.HoldsDeclared
  rw [recordOf?_withRecord hn, hfound]
  by_cases hmn : m = n
  · exact ⟨n, r.markedAs softDelete, by simp [hmn], hr.declared_markedAs softDelete⟩
  · exact ⟨m, found, by simp [hmn], hdeclared⟩

/-! ### The whole batch -/

/-- A run of steps adds the writes of all records, or fails where one of them cannot be written. -/
theorem foldlM_addRecord_outcome (softDelete : Bool) {vs : List Value}
    (hvs : ∀ v ∈ vs, s.HoldsDeclared v) (b : WriteBatch) :
    ∃ s', (vs.foldlM (addRecord softDelete) b).outcome s =
      ((vs.mapM (s.writing softDelete)).map fun ws => ws.foldl WriteBatch.addWrite b, s') := by
  induction vs generalizing s b with
  | nil => exact ⟨s, rfl⟩
  | cons v vs ih =>
    obtain ⟨n, r, hv, hr⟩ := hvs v List.mem_cons_self
    have hn := (recordOf?_eq_some_iff.1 hv).2
    have hwriting : s.writing softDelete v = r.writing softDelete := by
      rw [Session.writing, hv]
    rw [List.foldlM_cons, List.mapM_cons, hwriting, outcome_bind, addRecord_outcome hv hr]
    cases r.writing softDelete with
    | error fault => exact ⟨_, rfl⟩
    | ok w =>
      -- the rest reads the session with this record marked, which changes none of its writes
      have hrest : ∀ w ∈ vs, (s.withRecord n (r.markedAs softDelete)).HoldsDeclared w :=
        fun w hw => holdsDeclared_withRecord hn hr (hvs w (List.mem_cons_of_mem _ hw))
      obtain ⟨s', hs'⟩ := ih hrest (b.addWrite w)
      rw [writing_withRecord hn] at hs'
      refine ⟨s', hs'.trans ?_⟩
      cases vs.mapM (s.writing softDelete) <;> rfl

theorem operations_foldl_addWrite (ws : List (Option WriteOperation)) (b : WriteBatch) :
    (ws.foldl WriteBatch.addWrite b).operations = b.operations ++ ws.filterMap id := by
  induction ws generalizing b with
  | nil => simp
  | cons w ws ih =>
    rw [List.foldl_cons, ih, operations_addWrite]
    cases w <;> simp

theorem collection_foldl_addWrite (ws : List (Option WriteOperation)) (b : WriteBatch) :
    (ws.foldl WriteBatch.addWrite b).collection =
      b.collection.or ((ws.filterMap id).head?.map WriteOperation.collection) := by
  induction ws generalizing b with
  | nil => simp
  | cons w ws ih =>
    rw [List.foldl_cons, ih]
    rcases w with _ | w
    · rfl
    · -- a collection that is there stays, and else this write brings its own
      rw [addWrite_some]
      cases hb : b.collection <;> simp [WriteBatch.add, hb]

/-- The value is no record, or a record that can be written. -/
def Session.HoldsWritable (s : Session) (v : Value) : Prop :=
  ∀ n r, recordOf? s v = some (n, r) → r.Writable

theorem writing_of_holdsWritable {v : Value} (h : s.HoldsWritable v) :
    s.writing softDelete v = .ok (s.write? softDelete v) := by
  rw [Session.writing, Session.write?]
  rcases hv : recordOf? s v with _ | ⟨n, r⟩
  · rfl
  · exact Record.writing_of_writable (h n r hv)

theorem writing_of_not_holdsWritable {v : Value} (h : ¬ s.HoldsWritable v) :
    s.writing softDelete v = .error (.misuse .badValue) := by
  rw [Session.writing]
  rcases hv : recordOf? s v with _ | ⟨n, r⟩
  · exact absurd (fun n r hr => by rw [hv] at hr; cases hr) h
  · refine Record.writing_of_not_writable fun hr => h fun n' r' hr' => ?_
    rw [hv] at hr'
    cases hr'
    exact hr

/-- **The batch of a sequence of records.**  Where all items are records of declared types, building
their batch goes well for either setting exactly if all of them can be written; and its operations
are then the writes of the records as the session holds them before, in the order of the items.  A
record without a searchable form takes none. -/
theorem indexingBatch_outcome (softDelete : Bool) {records : Value} {vs : List Value}
    (hitems : records.items? = some vs) (hvs : ∀ v ∈ vs, s.HoldsDeclared v) :
    ((∀ v ∈ vs, s.HoldsWritable v) →
      ∃ b s', (indexingBatch softDelete records).outcome s = (.ok b, s') ∧
        b.operations = vs.filterMap (s.write? softDelete)) ∧
    ((∃ v ∈ vs, ¬ s.HoldsWritable v) →
      ∃ s', (indexingBatch softDelete records).outcome s = (.error (.misuse .badValue), s')) := by
  obtain ⟨s', hs'⟩ := foldlM_addRecord_outcome softDelete hvs {}
  rw [indexingBatch, foldItems_of_items hitems]
  refine ⟨fun hall => ?_, fun ⟨v, hv, hlong⟩ => ⟨s', ?_⟩⟩
  · rw [mapM_of_forall_ok fun v hv => writing_of_holdsWritable (hall v hv)] at hs'
    refine ⟨_, s', hs', ?_⟩
    rw [operations_foldl_addWrite, List.filterMap_map]
    rfl
  · have hfault : vs.mapM (s.writing softDelete) = .error (.misuse .badValue) := by
      refine mapM_eq_error ⟨v, hv, writing_of_not_holdsWritable hlong⟩ fun w _ fault hw => ?_
      by_cases hwritable : s.HoldsWritable w
      · rw [writing_of_holdsWritable hwritable] at hw
        cases hw
      · rw [writing_of_not_holdsWritable hwritable] at hw
        exact (Except.error.inj hw).symm
    rw [hfault] at hs'
    exact hs'

end SearchKit
