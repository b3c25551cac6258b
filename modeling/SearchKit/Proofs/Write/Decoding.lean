import SearchKit.Proofs.Session.Outcome
import SearchKit.Proofs.Session.Settling
import SearchKit.Write.Batch

/-!
# Decoding write batches

An entry of a batch stands for the writing of a document if it has one that is an object, and for a
deletion if it does not.  The second case is wider than the absence of a document: a document that is
no object is refused as such, but then the entry still passes as a deletion, since what a deletion
does not declare is ignored.

* `Entries.Writes` : the write that an entry stands for.
* `check_writeOperation_iff` : one entry.
* `WriteBatch.model_iff` : **a batch decodes to the writes of its entries**, in their order; no
  document is lost if all of them are objects (`Entries.Writes.of_objects`), and in
  `WriteBatch.model_of_text_document` one that is a text becomes a deletion.
-/

namespace SearchKit

open WriteOperation

/-- The write that an entry stands for: that of its document if it has one that is a map with text
keys, and a deletion otherwise. -/
inductive Entries.Writes (es : Entries) : WriteOperation → Prop where
  | index {collection id : String} {document : Entries}
      (hcollection : es.field? "collection" = some (.str collection))
      (hid : es.field? "id" = some (.str id))
      (hdocument : es.field? "document" = some (.dict document))
      (htext : ∀ e ∈ document, ∃ name, e.1 = .str name) :
      Writes es (.index collection id document)
  | delete {collection id : String}
      (hcollection : es.field? "collection" = some (.str collection))
      (hid : es.field? "id" = some (.str id))
      (hdocument : ∀ v, es.field? "document" = some v → ¬ v.IsObject) :
      Writes es (.delete collection id)

variable {es obj : Entries} {entries : List Entries}

/-- Where a document can only be an object, an entry stands for the writing of its document, and for
a deletion only without one. -/
theorem Entries.Writes.of_objects {op : WriteOperation} (h : es.Writes op)
    (hobject : ∀ v, es.field? "document" = some v → v.IsObject) :
    match es.field? "document" with
    | some v => ∃ collection id document, v = .dict document ∧ op = .index collection id document
    | none => ∃ collection id, op = .delete collection id := by
  cases h with
  | index _ _ hdocument _ =>
    rw [hdocument]
    exact ⟨_, _, _, rfl, rfl⟩
  | delete _ _ hdocument =>
    cases hv : es.field? "document" with
    | none => exact ⟨_, _, rfl⟩
    | some v => exact absurd (hobject v hv) (hdocument v hv)

/-! ### One entry -/

theorem check_indexOperation_iff {w : Value} :
    indexOperationShape.check (.dict es) = .ok w ↔ ∃ collection id document,
      es.field? "collection" = some (.str collection) ∧ es.field? "id" = some (.str id) ∧
        es.field? "document" = some (.dict document) ∧
        (∀ e ∈ document, ∃ name, e.1 = .str name) ∧ w = (index collection id document).toValue := by
  simp only [indexOperationShape, Shape.check_object_iff, Shape.checkFields_required_iff,
    Shape.check_str_iff, Shape.check_dictOf_any_iff, Shape.checkFields_nil_iff]
  constructor
  · rintro ⟨-, ⟨-, -, -, hcollection, ⟨collection, rfl, rfl⟩, ⟨-, -, -, hid, ⟨id, rfl, rfl⟩,
      ⟨-, -, -, hdocument, ⟨⟨document, rfl, htext⟩, rfl⟩, rfl, rfl⟩, rfl⟩, rfl⟩, rfl⟩
    exact ⟨collection, id, document, hcollection, hid, hdocument, htext, rfl⟩
  · rintro ⟨collection, id, document, hcollection, hid, hdocument, htext, rfl⟩
    exact ⟨_, ⟨_, _, _, hcollection, ⟨_, rfl, rfl⟩, ⟨_, _, _, hid, ⟨_, rfl, rfl⟩,
      ⟨_, _, _, hdocument, ⟨⟨_, rfl, htext⟩, rfl⟩, rfl, rfl⟩, rfl⟩, rfl⟩, rfl⟩

theorem check_deleteOperation_iff {w : Value} :
    deleteOperationShape.check (.dict es) = .ok w ↔ ∃ collection id,
      es.field? "collection" = some (.str collection) ∧ es.field? "id" = some (.str id) ∧
        w = (delete collection id).toValue := by
  simp only [deleteOperationShape, Shape.check_object_iff, Shape.checkFields_required_iff,
    Shape.check_str_iff, Shape.checkFields_nil_iff]
  constructor
  · rintro ⟨-, ⟨-, -, -, hcollection, ⟨collection, rfl, rfl⟩, ⟨-, -, -, hid, ⟨id, rfl, rfl⟩, rfl,
      rfl⟩, rfl⟩, rfl⟩
    exact ⟨collection, id, hcollection, hid, rfl⟩
  · rintro ⟨collection, id, hcollection, hid, rfl⟩
    exact ⟨_, ⟨_, _, _, hcollection, ⟨_, rfl, rfl⟩, ⟨_, _, _, hid, ⟨_, rfl, rfl⟩, rfl, rfl⟩, rfl⟩,
      rfl⟩

/-- An entry passes as the write that it stands for. -/
theorem check_writeOperation_iff {w : Value} :
    (Shape.either indexOperationShape deleteOperationShape).check (.dict es) = .ok w ↔
      ∃ op, es.Writes op ∧ w = op.toValue := by
  rw [Shape.check_either_iff, check_indexOperation_iff, check_deleteOperation_iff]
  constructor
  · rintro (⟨collection, id, document, hcollection, hid, hdocument, htext, rfl⟩ |
      ⟨hindex, collection, id, hcollection, hid, rfl⟩)
    · exact ⟨_, .index hcollection hid hdocument htext, rfl⟩
    · refine ⟨_, .delete hcollection hid ?_, rfl⟩
      rintro v hdocument ⟨document, rfl, htext⟩
      -- with such a document it would have passed as the writing of that
      exact hindex _ (check_indexOperation_iff.2
        ⟨collection, id, document, hcollection, hid, hdocument, htext, rfl⟩)
  · rintro ⟨op, hop, rfl⟩
    cases hop with
    | index hcollection hid hdocument htext =>
      exact .inl ⟨_, _, _, hcollection, hid, hdocument, htext, rfl⟩
    | delete hcollection hid hdocument =>
      refine .inr ⟨fun u hu => ?_, _, _, hcollection, hid, rfl⟩
      obtain ⟨-, -, document, -, -, hfound, htext, -⟩ := check_indexOperation_iff.1 hu
      exact hdocument _ hfound ⟨document, rfl, htext⟩

/-! ### A batch -/

theorem forall₂_writes_iff {ws : List Value} :
    List.Forall₂ (fun x w => (Shape.either indexOperationShape deleteOperationShape).check x = .ok w)
        (entries.map .dict) ws ↔
      ∃ ops, List.Forall₂ Entries.Writes entries ops ∧ ws = ops.map toValue := by
  rw [List.forall₂_map_left_iff]
  simp only [check_writeOperation_iff]
  constructor
  · intro h
    induction h with
    | nil => exact ⟨[], .nil, rfl⟩
    | cons hhead _ ih =>
      obtain ⟨op, hop, rfl⟩ := hhead
      obtain ⟨ops, hops, rfl⟩ := ih
      exact ⟨op :: ops, .cons hop hops, rfl⟩
  · rintro ⟨ops, hops, rfl⟩
    rw [List.forall₂_map_right_iff]
    exact hops.imp fun _ op hop => ⟨op, hop, rfl⟩

namespace WriteBatch

theorem check_iff (hentries : obj.field? "operations" = some (.list (entries.map .dict)))
    {v : Value} :
    (ModelKind.shape .writeBatch).check (.dict obj) = .ok v ↔ ∃ b : WriteBatch,
      (obj.field? "collection").getD .null = b.collectionValue ∧
        List.Forall₂ Entries.Writes entries b.operations ∧ v = b.toValue := by
  have hnull : (Shape.optional .str).check .null = .ok .null :=
    Shape.check_optional_iff.2 (.inl ⟨rfl, rfl⟩)
  have hempty : ∀ s : Shape, (Shape.listOf s).check (.list []) = .ok (.list []) :=
    fun s => Shape.check_listOf (by simp)
  simp only [ModelKind.shape, writeBatchShape, Shape.check_object_iff, optionalField, listField,
    Shape.checkFields_fallback_iff hnull, Shape.checkFields_fallback_iff (hempty _),
    Shape.check_optional_str_iff, hentries, Option.getD_some, Shape.check_listOf_iff,
    forall₂_writes_iff, Shape.checkFields_nil_iff]
  constructor
  · rintro ⟨-, ⟨-, -, ⟨rfl, collection, hcollection⟩, ⟨-, -, ⟨-, ⟨ops, hops, rfl⟩, rfl⟩, rfl, rfl⟩,
      rfl⟩, rfl⟩
    exact ⟨⟨collection, ops⟩, hcollection, hops, by rw [hcollection]; rfl⟩
  · rintro ⟨b, hcollection, hops, rfl⟩
    exact ⟨_, ⟨_, _, ⟨rfl, b.collection, hcollection⟩, ⟨_, _, ⟨_, ⟨_, hops, rfl⟩, rfl⟩, rfl, rfl⟩,
      rfl⟩, by rw [hcollection]; rfl⟩

theorem model_eq (hentries : obj.field? "operations" = some (.list (entries.map .dict))) :
    model .writeBatch (.dict obj) = liftM (ModelKind.ofValue .writeBatch (.dict obj)) := by
  refine model_of_settled (settleShape_object fun f hf v hv => ?_)
  obtain rfl | rfl := List.mem_pair.1 hf
  · exact (settleShape_optional _ _).trans (settleShape_str _)
  · cases hentries.symm.trans hv
    exact settleShape_listOf fun x _ => settleShape_either _ _ x

/-- **A batch decodes to the writes that its entries stand for**, one for each in their order, and
only where every entry stands for one. -/
theorem model_iff (hentries : obj.field? "operations" = some (.list (entries.map .dict)))
    (s s' : Session) (v : Value) :
    (model .writeBatch (.dict obj)).outcome s = (.ok v, s') ↔ s' = s ∧ ∃ b : WriteBatch,
      (obj.field? "collection").getD .null = b.collectionValue ∧
        List.Forall₂ Entries.Writes entries b.operations ∧ v = b.toValue := by
  rw [model_eq hentries, ← check_iff hentries, ← ModelKind.ofValue_eq_ok_iff, Act.outcome_lift,
    Prod.mk.injEq, and_comm, eq_comm]

/-- A document is written and an entry without one is deleted, in their order. -/
theorem model_of_document_and_none :
    let document : Entries := [(.str "title", .str "x")]
    let entries : List Entries := [
      [(.str "collection", .str "posts"), (.str "id", .str "1"), (.str "document", .dict document)],
      [(.str "id", .str "2"), (.str "collection", .str "users")]]
    let obj : Entries := [(.str "operations", .list (entries.map .dict))]
    (model .writeBatch (.dict obj)).outcome {} =
      (.ok (toValue ⟨none, [.index "posts" "1" document, .delete "users" "2"]⟩), {}) := by
  intro document entries obj
  have hentries : obj.field? "operations" = some (.list (entries.map .dict)) := rfl
  refine (model_iff hentries {} {} _).2 ⟨rfl, _, rfl, ?_, rfl⟩
  refine .cons (.index rfl rfl rfl (by simp [document])) (.cons (.delete rfl rfl ?_) .nil)
  rintro v ⟨⟩

/-- An entry with a text in the place of its document decodes to a deletion. -/
theorem model_of_text_document :
    let entry : Entries := [
      (.str "collection", .str "posts"), (.str "id", .str "1"), (.str "document", .str "text")]
    let obj : Entries := [(.str "operations", .list [.dict entry])]
    (model .writeBatch (.dict obj)).outcome {} =
      (.ok (toValue ⟨none, [.delete "posts" "1"]⟩), {}) := by
  intro entry obj
  have hentries : obj.field? "operations" = some (.list ([entry].map .dict)) := rfl
  have hvalue : ModelKind.ofValue .writeBatch (.dict obj) =
      .ok (toValue ⟨none, [.delete "posts" "1"]⟩) := by
    refine ModelKind.ofValue_eq_ok_iff.2 ((check_iff hentries).2
      ⟨_, rfl, .cons (.delete rfl rfl ?_) .nil, rfl⟩)
    rintro v ⟨⟩ ⟨document, ⟨⟩, -⟩
  rw [model_eq hentries, hvalue]
  rfl

end WriteBatch

end SearchKit
