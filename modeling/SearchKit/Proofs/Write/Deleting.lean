import SearchKit.Proofs.Write.Indexing
import SearchKit.Proofs.Write.Sending

/-!
# Items deleted by one request

A record is deleted from its own collection, a bare identifier from the collection of the batch.
That is the named one, else the one of the first item; so a bare identifier is refused only where
it comes first and nothing is named, and from the first item on the collection of the batch stays.
Apart from that, the building fails only at an identifier that is too long to be written.

* `Session.deletedId`, `Session.deletedFrom` : the identifier and the collection that an item is
  deleted by, and `Session.target?` the collection of a batch.
* `addDelete_deleteItem` : one step of the building, where the collection of the batch is known.
* `foldlM_addDelete_outcome` : a run of such steps.
* `deletionBatch_of_addressed`, `requests_deletions` : the batch, and the request for it.
* `deletionBatch_sent` : **the batch of a sequence of items**, and the request that it is sent in.
-/

namespace SearchKit

open Act

variable {s : Session}

/-! ### One item -/

/-- The identifier that an item is deleted by: the key of a record, and anything else itself. -/
def Session.deletedId (s : Session) (v : Value) : Value :=
  match recordOf? s v with
  | some (_, r) => r.key
  | none => v

/-- The collection that an item is deleted from, bare identifiers being in a given one. -/
def Session.deletedFrom (s : Session) (bare : String) (v : Value) : String :=
  match recordOf? s v with
  | some (_, r) => r.collectionName
  | none => bare

/-- The deletion of an item, bare identifiers being in a given collection. -/
def Session.deletion (s : Session) (bare : String) (v : Value) : WriteOperation :=
  .delete (s.deletedFrom bare v) (s.deletedId v).text

/-- The value is no record, or a record whose collection is a text. -/
def Session.Deletable (s : Session) (v : Value) : Prop :=
  ∀ n r, recordOf? s v = some (n, r) → r.collection = .str r.collectionName

theorem deleteOperation_str (collection : String) (id : Value) :
    deleteOperation (.str collection) id = id.spell.map (.delete collection) := by
  rw [deleteOperation]
  cases id.spell <;> rfl

theorem addDelete_record {v : Value} {n : Nat} {r : Record} (hv : recordOf? s v = some (n, r))
    (hr : r.collection = .str r.collectionName) (b : WriteBatch) :
    b.addDelete (deleteItem s v) =
      r.key.spell.map fun id => b.add r.collectionName (.delete r.collectionName id) := by
  rw [deleteItem, hv]
  dsimp only
  rw [hr, WriteBatch.addDelete, deleteOperation_str]
  cases r.key.spell <;> rfl

theorem addDelete_bare {v : Value} (hv : recordOf? s v = none) (b : WriteBatch) :
    b.addDelete (deleteItem s v) = match b.collection with
      | some collection => v.spell.map fun id => b.add collection (.delete collection id)
      | none => .error (.badRequest .noCollectionToDelete) := by
  rw [deleteItem, hv]
  obtain ⟨_ | collection, operations⟩ := b
  · rfl
  · have hvalue : WriteBatch.collectionValue ⟨some collection, operations⟩ = .str collection := rfl
    dsimp only
    rw [WriteBatch.addDelete]
    dsimp only
    rw [hvalue, deleteOperation_str]
    cases v.spell <;> rfl

/-- In a batch that has a collection every item finds its own one, and only its identifier may be too
long to be written. -/
theorem addDelete_deleteItem {v : Value} (hv : s.Deletable v) (target : String)
    (operations : List WriteOperation) :
    WriteBatch.addDelete ⟨some target, operations⟩ (deleteItem s v) =
      (s.deletedId v).spell.map fun id =>
        ⟨some target, operations ++ [.delete (s.deletedFrom target v) id]⟩ := by
  rcases hr : recordOf? s v with _ | ⟨n, r⟩
  · rw [addDelete_bare hr, Session.deletedId, Session.deletedFrom, hr]
    rfl
  · rw [addDelete_record hr (hv n r hr), Session.deletedId, Session.deletedFrom, hr]
    rfl

/-! ### All items -/

theorem outcome_addDelete (b : WriteBatch) (v : Value) (s : Session) :
    (do return ← b.addDelete (deleteItem (← get) v) : Act WriteBatch).outcome s =
      (b.addDelete (deleteItem s v), s) := rfl

/-- Once a batch has a collection, every further item adds its deletion, whatever it is, if all
identifiers can be written. -/
theorem foldlM_addDelete_outcome {vs : List Value} (hvs : ∀ v ∈ vs, s.Deletable v)
    (target : String) (operations : List WriteOperation) :
    (vs.foldlM (fun b v => do return ← WriteBatch.addDelete b (deleteItem (← get) v))
        ⟨some target, operations⟩ : Act WriteBatch).outcome s =
      (((vs.map s.deletedId).mapM Value.spell).map fun _ =>
        ⟨some target, operations ++ vs.map (s.deletion target)⟩, s) := by
  induction vs generalizing operations with
  | nil => rw [List.map_nil, List.append_nil]; rfl
  | cons v vs ih =>
    have hstep := outcome_addDelete ⟨some target, operations⟩ v s
    rw [addDelete_deleteItem (hvs v List.mem_cons_self)] at hstep
    simp only [List.foldlM_cons, List.map_cons, List.mapM_cons]
    cases htext : (s.deletedId v).hasText with
    | false =>
      rw [Value.spell_of_not_hasText htext] at hstep ⊢
      exact outcome_bind_error hstep _
    | true =>
      rw [Value.spell_of_hasText htext] at hstep ⊢
      rw [outcome_bind_ok hstep, ih fun w hw => hvs w (List.mem_cons_of_mem _ hw),
        List.append_assoc]
      cases (vs.map s.deletedId).mapM Value.spell <;> rfl

/-- The collection of a batch: the named one, else the one of the first item if it is a record. -/
def Session.target? (s : Session) (named : Option String) (vs : List Value) : Option String :=
  named.or (vs.head?.bind fun v => (recordOf? s v).map fun found => found.2.collectionName)

/-- No collection is named, and a bare identifier comes first. -/
def Session.Unaddressed (s : Session) (named : Option String) (vs : List Value) : Prop :=
  named = none ∧ ∃ v, vs.head? = some v ∧ recordOf? s v = none

theorem startDelete_eq (named : Option String) :
    WriteBatch.startDelete ((named.map Value.str).getD .null) = .ok ⟨named, []⟩ := by
  cases named <;> rfl

variable {items : Value} {vs : List Value} {named : Option String}

theorem deletionBatch_of_unaddressed (hitems : items.items? = some vs)
    (h : s.Unaddressed named vs) :
    (deletionBatch items ((named.map Value.str).getD .null)).outcome s =
      (.error (.badRequest .noCollectionToDelete), s) := by
  obtain ⟨rfl, v, hfirst, hv⟩ := h
  obtain ⟨vs, rfl⟩ := List.head?_eq_some_iff.1 hfirst
  have hstep := outcome_addDelete ⟨none, []⟩ v s
  rw [addDelete_bare hv] at hstep
  rw [deletionBatch, startDelete_eq, Act.lift_ok, pure_bind, foldItems_of_items hitems,
    List.foldlM_cons, outcome_bind_error hstep]

theorem deletionBatch_of_target (hitems : items.items? = some vs)
    (hvs : ∀ v ∈ vs, s.Deletable v) {target : String} (htarget : s.target? named vs = some target) :
    (deletionBatch items ((named.map Value.str).getD .null)).outcome s =
      (((vs.map s.deletedId).mapM Value.spell).map fun _ =>
        ⟨some target, vs.map (s.deletion target)⟩, s) := by
  rw [deletionBatch, startDelete_eq, Act.lift_ok, pure_bind, foldItems_of_items hitems]
  refine Eq.trans ?_ (foldlM_addDelete_outcome hvs target [])
  rcases named with _ | target
  · obtain ⟨v, hfirst, hv⟩ := Option.bind_eq_some_iff.1 htarget
    obtain ⟨⟨n, r⟩, hr, rfl⟩ := Option.map_eq_some_iff.1 hv
    obtain ⟨vs, rfl⟩ := List.head?_eq_some_iff.1 hfirst
    -- the first record's collection becomes that of the batch
    have hstep : WriteBatch.addDelete ⟨none, []⟩ (deleteItem s v) =
        WriteBatch.addDelete ⟨some r.collectionName, []⟩ (deleteItem s v) := by
      have hown := hvs v List.mem_cons_self n r hr
      rw [addDelete_record hr hown, addDelete_record hr hown]
      rfl
    rw [List.foldlM_cons, List.foldlM_cons]
    refine outcome_bind_left ?_ _
    rw [outcome_addDelete, outcome_addDelete, hstep]
  · cases htarget
    rfl

/-- A batch has a collection unless it is refused one, or it has no items and none is named. -/
theorem Session.target?_of_addressed (h : ¬ s.Unaddressed named vs) (hvs : vs ≠ []) :
    ∃ target, s.target? named vs = some target := by
  rcases named with _ | target
  · obtain ⟨v, vs, rfl⟩ := List.exists_cons_of_ne_nil hvs
    rcases hr : recordOf? s v with _ | ⟨n, r⟩
    · exact absurd ⟨rfl, v, rfl, hr⟩ h
    · exact ⟨r.collectionName, by simp [target?, hr]⟩
  · exact ⟨target, rfl⟩

theorem deletionBatch_of_nil (hitems : items.items? = some []) (named : Option String) :
    (deletionBatch items ((named.map Value.str).getD .null)).outcome s =
      (.ok ⟨s.target? named [], []⟩, s) := by
  rw [deletionBatch, startDelete_eq, Act.lift_ok, pure_bind, foldItems_of_items hitems,
    Session.target?, List.head?_nil, Option.bind_none, Option.or_none]
  rfl

/-- A batch that is not refused has the deletions of its items, if all identifiers can be
written. -/
theorem deletionBatch_of_addressed (hitems : items.items? = some vs)
    (hvs : ∀ v ∈ vs, s.Deletable v) (h : ¬ s.Unaddressed named vs) :
    ∃ target, (vs ≠ [] → s.target? named vs = some target) ∧
      (deletionBatch items ((named.map Value.str).getD .null)).outcome s =
        (((vs.map s.deletedId).mapM Value.spell).map fun _ =>
          ⟨s.target? named vs, vs.map (s.deletion target)⟩, s) := by
  by_cases hnone : vs = []
  · subst hnone
    exact ⟨"", fun hsome => absurd rfl hsome, deletionBatch_of_nil hitems named⟩
  · obtain ⟨target, htarget⟩ := Session.target?_of_addressed h hnone
    refine ⟨target, fun _ => htarget, ?_⟩
    rw [htarget]
    exact deletionBatch_of_target hitems hvs htarget

theorem requests_deletions (via : Connection) {target : String} {collection? : Option String}
    (htarget : vs ≠ [] → collection? = some target) :
    WriteBatch.requests via ⟨collection?, vs.map (s.deletion target)⟩ = if vs = [] then [] else
      [(via, .bulk (.str target) (.list (vs.map fun v => .dict [(.str "delete", .dict [
        (.str "_index", .str (s.deletedFrom target v)),
        (.str "_id", .str (s.deletedId v).text)])])))] := by
  rcases vs with _ | ⟨v, vs⟩
  · rfl
  · have hnative : ((v :: vs).map (s.deletion target)).flatMap WriteOperation.native =
        (v :: vs).map fun w => .dict [(.str "delete", .dict [
          (.str "_index", .str (s.deletedFrom target w)),
          (.str "_id", .str (s.deletedId w).text)])] := by
      rw [List.flatMap_map, List.map_eq_flatMap]
      rfl
    rw [htarget (List.cons_ne_nil v vs), if_neg (List.cons_ne_nil v vs), ← hnative]
    rfl

/-- **The batch of a sequence of items**, bare identifiers and records whose collection is a text in
any order, for an optional collection.  Building it is refused exactly where no collection is named
and a bare identifier comes first.  Else it fails only where the key of a record or a bare identifier
is too long to be written.  Whenever it fails, nothing is sent.  Where it goes well, it holds one
deletion for each item, in order: of a record from its own collection by the text of its key, and of
a bare identifier by its text, from the named collection and without one from that of the first item.
Sending the batch makes one bulk request with a header for each item, and none where there are no
items. -/
theorem deletionBatch_sent (hitems : items.items? = some vs) (hvs : ∀ v ∈ vs, s.Deletable v)
    (named : Option String) {via : Connection} (hvia : via.Usable) :
    let built := (deletionBatch items ((named.map Value.str).getD .null)).outcome s
    let sent := ((deletionBatch items ((named.map Value.str).getD .null) >>=
      sendBatch via).outcome s).2.requests
    (built = (.error (.badRequest .noCollectionToDelete), s) ↔ s.Unaddressed named vs) ∧
    (¬ s.Unaddressed named vs → (∃ v ∈ vs, (s.deletedId v).hasText = false) →
      built = (.error (.misuse .badValue), s)) ∧
    (∀ fault s', built = (.error fault, s') → sent = s.requests) ∧
    (¬ s.Unaddressed named vs → (∀ v ∈ vs, (s.deletedId v).hasText = true) →
      ∃ target, (vs ≠ [] → s.target? named vs = some target) ∧
      built = (.ok ⟨s.target? named vs,
        vs.map fun v => .delete (s.deletedFrom target v) (s.deletedId v).text⟩, s) ∧
      sent = s.requests ++ if vs = [] then [] else
        [(via, .bulk (.str target) (.list (vs.map fun v => .dict [(.str "delete", .dict [
          (.str "_index", .str (s.deletedFrom target v)),
          (.str "_id", .str (s.deletedId v).text)])])))]) := by
  intro built sent
  have hlong : ¬ s.Unaddressed named vs → (∃ v ∈ vs, (s.deletedId v).hasText = false) →
      built = (.error (.misuse .badValue), s) := fun h hone => by
    obtain ⟨target, -, hends⟩ := deletionBatch_of_addressed hitems hvs h
    refine hends.trans ?_
    rw [Value.mapM_spell_of_not_hasText (by simpa using hone)]
    rfl
  have hok : ¬ s.Unaddressed named vs → (∀ v ∈ vs, (s.deletedId v).hasText = true) →
      ∃ target, (vs ≠ [] → s.target? named vs = some target) ∧
        built = (.ok ⟨s.target? named vs, vs.map (s.deletion target)⟩, s) := fun h hall => by
    obtain ⟨target, htarget, hends⟩ := deletionBatch_of_addressed hitems hvs h
    refine ⟨target, htarget, hends.trans ?_⟩
    rw [Value.mapM_spell_eq_ok_iff.2 ⟨by simpa using hall, rfl⟩]
    rfl
  refine ⟨⟨fun hrefused => ?_, deletionBatch_of_unaddressed hitems⟩, hlong, ?_, fun h hall => ?_⟩
  -- with a collection to go to, neither way of ending is the refusal
  · by_contra h
    by_cases hone : ∃ v ∈ vs, (s.deletedId v).hasText = false
    · rw [hlong h hone] at hrefused
      cases hrefused
    · push Not at hone
      obtain ⟨target, -, hends⟩ := hok h (by simpa using hone)
      rw [hends] at hrefused
      cases hrefused
  · intro fault s' hfault
    have hends : (deletionBatch items ((named.map Value.str).getD .null)).outcome s = _ := hfault
    simp only [sent]
    rw [outcome_bind_error hends]
    exact (keeps_deletionBatch apart_requests.toApartFromReading items _).after hends
  · obtain ⟨target, htarget, hends⟩ := hok h hall
    refine ⟨target, htarget, hends, ?_⟩
    have hbatch : (deletionBatch items ((named.map Value.str).getD .null)).outcome s = _ := hends
    simp only [sent]
    rw [outcome_bind_ok hbatch, asks_sendBatch hvia, requests_deletions via htarget]

/-- A record of one collection and one of another. -/
def Session.ofTwoCollections : Session where
  records := [
    { Record.ofKey (.int 7) with collection := .str "posts" },
    { Record.ofKey (.str "about") with collection := .str "pages" }]

/-- A bare identifier between records and one behind them. -/
def mixedItems : List Value := [.record 0 "post", .int 5, .record 1 "page", .str "5"]

theorem deletable_ofTwoCollections (v : Value) : Session.ofTwoCollections.Deletable v := by
  intro n r hv
  obtain ⟨-, hn⟩ := recordOf?_eq_some_iff.1 hv
  rcases n with _ | _ | n <;> cases hn <;> rfl

/-- Behind a record, bare identifiers are deleted from its collection, also behind a record of
another one; in front of it they are refused. -/
theorem deletionBatch_sent_of_mixed_items :
    ((deletionBatch (.list mixedItems) .null >>= sendBatch .host).outcome
        .ofTwoCollections).2.requests =
      [(.host, .bulk (.str "posts") (.list [
        .dict [(.str "delete", .dict [(.str "_index", .str "posts"), (.str "_id", .str "7")])],
        .dict [(.str "delete", .dict [(.str "_index", .str "posts"), (.str "_id", .str "5")])],
        .dict [(.str "delete", .dict [(.str "_index", .str "pages"), (.str "_id", .str "about")])],
        .dict [(.str "delete", .dict [(.str "_index", .str "posts"), (.str "_id", .str "5")])]]))] ∧
    (deletionBatch (.list (.int 5 :: mixedItems)) .null).outcome .ofTwoCollections =
      (.error (.badRequest .noCollectionToDelete), .ofTwoCollections) := by
  have hdeletable : ∀ vs : List Value, ∀ v ∈ vs, Session.ofTwoCollections.Deletable v :=
    fun _ v _ => deletable_ofTwoCollections v
  constructor
  · have hitems : (Value.list mixedItems).items? = some mixedItems := rfl
    obtain ⟨-, -, -, haddressed⟩ :=
      deletionBatch_sent hitems (hdeletable _) none Connection.usable_host
    have hfirst : ¬ Session.ofTwoCollections.Unaddressed none mixedItems := by
      rintro ⟨-, v, hv, hnone⟩
      cases hv
      cases hnone
    have htexts : ∀ v ∈ mixedItems, (Session.ofTwoCollections.deletedId v).hasText = true := by
      decide
    obtain ⟨target, htarget, -, hsent⟩ := haddressed hfirst htexts
    cases htarget (List.cons_ne_nil _ _)
    exact hsent
  · have hitems : (Value.list (.int 5 :: mixedItems)).items? = some (.int 5 :: mixedItems) := rfl
    obtain ⟨hrefused, -⟩ :=
      deletionBatch_sent hitems (hdeletable _) none Connection.usable_host
    exact hrefused.2 ⟨rfl, _, rfl, rfl⟩

end SearchKit
