import SearchKit.Write.Batch
import Mathlib.Data.List.Forall2

/-!
# The framing of a bulk request

A bulk request is one flat list: a header for each write, and behind the header of an index
operation its document.  A document can have the form of a header, but a reader that starts at a
header knows from it whether a document follows, so it never takes a document for a header.

* `headerOf?`, `readWrites?` : the reader, one element for a deletion and two for an index
  operation.
* `readWrites?_native_append` : one frame, whatever comes behind it.
* `readWrites?_eq_some_iff` : the reader finds writes exactly in the list that is sent for them.
* `WriteBatch.native_unambiguous` : **a bulk request determines its writes**, and
  `WriteBatch.native_unambiguous_upTo` the same where documents are compared by any relation.
-/

namespace SearchKit

open WriteOperation

/-- The action, the collection and the identifier of a header. -/
def headerOf? : Value → Option (String × String × String)
  | .dict [(.str action, .dict [(.str "_index", .str collection), (.str "_id", .str id)])] =>
    some (action, collection, id)
  | _ => none

/-- The writes of a flat list of headers and documents, read from the left. -/
def readWrites? : List Value → Option (List WriteOperation)
  | [] => some []
  | v :: body => match headerOf? v with
    | some ("delete", collection, id) => (readWrites? body).map (delete collection id :: ·)
    | some ("index", collection, id) => match body with
      | .dict document :: body => (readWrites? body).map (index collection id document :: ·)
      | _ => none
    | _ => none

variable {v : Value} {action collection id : String}

@[simp] theorem headerOf?_header (action collection id : String) :
    headerOf? (header action collection id) = some (action, collection, id) := rfl

theorem headerOf?_eq_some_iff :
    headerOf? v = some (action, collection, id) ↔ v = header action collection id := by
  constructor
  · intro h
    unfold headerOf? at h
    split at h
    · cases h
      rfl
    · cases h
  · rintro rfl
    rfl

/-- One frame: the reader finds the write, and goes on behind it. -/
theorem readWrites?_native_append (op : WriteOperation) (body : List Value) :
    readWrites? (op.native ++ body) = (readWrites? body).map (op :: ·) := by
  cases op with
  | index collection id document => rfl
  | delete collection id => rfl

theorem readWrites?_flatMap_native (ops : List WriteOperation) :
    readWrites? (ops.flatMap native) = some ops := by
  induction ops with
  | nil => rfl
  | cons op ops ih => rw [List.flatMap_cons, readWrites?_native_append, ih, Option.map_some]

theorem eq_flatMap_native_of_readWrites? {body : List Value} {ops : List WriteOperation}
    (h : readWrites? body = some ops) : body = ops.flatMap native := by
  -- along the reader: behind a header it goes on in a shorter list, or it finds nothing
  fun_induction readWrites? body generalizing ops with
  | case1 =>
    cases h
    rfl
  | case2 v body collection id hv ih =>
    obtain ⟨rest, hrest, rfl⟩ := Option.map_eq_some_iff.1 h
    rw [headerOf?_eq_some_iff.1 hv, List.flatMap_cons, ← ih hrest]
    rfl
  | case3 v collection id hv document body ih =>
    obtain ⟨rest, hrest, rfl⟩ := Option.map_eq_some_iff.1 h
    rw [headerOf?_eq_some_iff.1 hv, List.flatMap_cons, ← ih hrest]
    rfl
  | case4 => cases h
  | case5 => cases h

theorem readWrites?_eq_some_iff {body : List Value} {ops : List WriteOperation} :
    readWrites? body = some ops ↔ body = ops.flatMap native :=
  ⟨eq_flatMap_native_of_readWrites?, fun h => h ▸ readWrites?_flatMap_native ops⟩

namespace WriteBatch

/-- **A bulk request determines its writes**, whatever the documents are: the reader recovers them
from it, and finds them in no other list. -/
theorem native_unambiguous (a b : WriteBatch) :
    (a.native = b.native ↔ a.operations = b.operations) ∧
      ∀ body, readWrites? body = some a.operations ↔ body = a.native := by
  refine ⟨⟨fun h => ?_, congrArg (List.flatMap WriteOperation.native)⟩, fun body =>
    readWrites?_eq_some_iff⟩
  have ha : readWrites? a.native = some a.operations := readWrites?_flatMap_native _
  have hb : readWrites? b.native = some b.operations := readWrites?_flatMap_native _
  rw [h, hb] at ha
  exact (Option.some.inj ha).symm

end WriteBatch

/-! ### Up to a comparison of documents -/

/-- Two writes are the same up to a comparison of their documents. -/
inductive WriteOperation.SameUpTo (same : Value → Value → Prop) :
    WriteOperation → WriteOperation → Prop where
  | index {collection id : String} {document other : Entries}
      (h : same (.dict document) (.dict other)) :
      SameUpTo same (.index collection id document) (.index collection id other)
  | delete {collection id : String} :
      SameUpTo same (.delete collection id) (.delete collection id)

/-- The comparison tells headers apart. -/
def TellsHeaders (same : Value → Value → Prop) : Prop :=
  ∀ action collection id action' collection' id',
    same (header action collection id) (header action' collection' id') →
      action = action' ∧ collection = collection' ∧ id = id'

/-- One frame: two bodies that both start with a write and are the same element by element start
with the same write, and are the same behind it. -/
theorem sameUpTo_of_native_append {same : Value → Value → Prop} (hsame : TellsHeaders same)
    {op op' : WriteOperation} {body body' : List Value}
    (h : List.Forall₂ same (op.native ++ body) (op'.native ++ body')) :
    op.SameUpTo same op' ∧ List.Forall₂ same body body' := by
  cases op with
  | index collection id document =>
    obtain ⟨v, tail, hfirst, htail, heq⟩ := List.forall₂_cons_left_iff.1 h
    cases op' with
    | index collection' id' document' =>
      cases heq
      obtain ⟨-, rfl, rfl⟩ := hsame _ _ _ _ _ _ hfirst
      obtain ⟨hdocument, hrest⟩ := List.forall₂_cons.1 htail
      exact ⟨.index hdocument, hrest⟩
    | delete collection' id' =>
      cases heq
      exact absurd (hsame _ _ _ _ _ _ hfirst).1 (by decide)
  | delete collection id =>
    obtain ⟨v, tail, hfirst, hrest, heq⟩ := List.forall₂_cons_left_iff.1 h
    cases op' with
    | index collection' id' document' =>
      cases heq
      exact absurd (hsame _ _ _ _ _ _ hfirst).1 (by decide)
    | delete collection' id' =>
      cases heq
      obtain ⟨-, rfl, rfl⟩ := hsame _ _ _ _ _ _ hfirst
      exact ⟨.delete, hrest⟩

/-- If two bodies are the same element by element, so are the writes that they are sent for, for any
comparison that tells headers apart; it may take a document for a header. -/
theorem WriteBatch.native_unambiguous_upTo {same : Value → Value → Prop}
    (hsame : TellsHeaders same) {a b : WriteBatch} (h : List.Forall₂ same a.native b.native) :
    List.Forall₂ (WriteOperation.SameUpTo same) a.operations b.operations := by
  rw [WriteBatch.native, WriteBatch.native] at h
  generalize a.operations = ops at h ⊢
  generalize b.operations = ops' at h ⊢
  -- both bodies stand at a header before each frame, so neither is ahead of the other
  induction ops generalizing ops' with
  | nil =>
    cases ops' with
    | nil => exact .nil
    | cons op' ops' => cases op' <;> cases h
  | cons op ops ih =>
    cases ops' with
    | nil => cases op <;> cases h
    | cons op' ops' =>
      obtain ⟨hop, hrest⟩ := sameUpTo_of_native_append hsame h
      exact .cons hop (ih ops' hrest)

end SearchKit
