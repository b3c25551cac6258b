import SearchKit.Engine.Elasticsearch
import SearchKit.Proofs.Session.Frame

/-!
# What the steps of an operation leave alone

Between finding its connection and sending its request an operation reads sequences and records,
marks records and writes logs.  Whatever part of a session tells of none of these is the same after
such a step.

* `ApartFromWriting` : a part of the session that is apart from the records and the logs as well as
  from reading.
* `keeps_convertNamed` : converting arguments is reading them.
* `keeps_collectionName`, `keeps_requestOptions` : what precedes a search.
* `keeps_indexingBatch`, `keeps_deletionBatch` : what precedes a bulk request.
* `keeps_recordsBehind`, `keeps_recordsLazily` : what follows a search.
-/

namespace SearchKit

open Act

/-- Writing leaves a part of the session alone: besides being apart from reading, it tells neither
of the records nor of the logs. -/
structure ApartFromWriting {γ : Type} (view : Session → γ) : Prop
    extends ApartFromReading view where
  /-- It does not tell of logs. -/
  log : ∀ s level logger text,
    view { s with trace := s.trace ++ [.log level logger text] } = view s
  /-- It does not tell of the records. -/
  records : ∀ s r, view { s with records := r } = view s

section

variable {γ : Type} {view : Session → γ}

/-! ### Reading the application -/

theorem keeps_component (id : Nat) : Keeps view (component id) := by
  refine .bind .get fun s => ?_
  split
  · exact .pure _
  · exact .throw _

theorem keeps_predicates (v : Value) : Keeps view (Elasticsearch.predicates v) := by
  unfold Elasticsearch.predicates
  split
  · exact .pure _
  · exact .throw _

theorem keeps_collectionOf (v : Value) : Keeps view (Elasticsearch.collectionOf v) := by
  unfold Elasticsearch.collectionOf
  split
  · exact .pure _
  · refine .bind .get fun s => ?_
    split
    · exact .pure _
    · exact .pure _
    · exact .throw _

theorem keeps_ownerCollection (P : Provider) : Keeps view (Elasticsearch.ownerCollection P) := by
  refine .bind .get fun s => ?_
  split <;> exact .pure _

theorem keeps_defaultCollection (p : Nat) : Keeps view (Elasticsearch.defaultCollection p) :=
  .bind (keeps_requireOwn p _) fun _ => .bind (keeps_provider p) fun P =>
    .bind (keeps_ownerCollection P) fun _ => .pure _

theorem keeps_collectionName (p : Nat) (named source : Value) :
    Keeps view (Elasticsearch.collectionName p named source) := by
  have hnamed : ∀ name : Value, Keeps view
      (if name.truthy then return name else throw (.badRequest .noCollection) : Act Value) := by
    intro name
    split
    · exact .pure _
    · exact .throw _
  have hown : ∀ own : Value, Keeps view (do
      let name ← if own.truthy then pure own else Elasticsearch.defaultCollection p
      if name.truthy then return name else throw (.badRequest .noCollection) : Act Value) := by
    intro own
    dsimp only
    split
    · exact .bind (.pure _) hnamed
    · exact .bind (keeps_defaultCollection p) hnamed
  refine .bind (keeps_requireOwn p _) fun _ => ?_
  dsimp only
  split
  · exact .bind (.pure _) hnamed
  · split
    · exact .bind (.pure _) hown
    · exact .bind (keeps_collectionOf source) hown

theorem keeps_textFieldsOf (v : Value) : Keeps view (Elasticsearch.textFieldsOf v) := by
  unfold Elasticsearch.textFieldsOf
  split
  · exact .pure _
  · exact .bind (keeps_theSource v) fun _ => .pure _

theorem keeps_chosenSource (p : Nat) (given source : Value) :
    Keeps view (Elasticsearch.chosenSource p given source) := by
  have hchosen : ∀ source : Value, Keeps view
      (if source.isNull then throw (.badRequest .noSource) else return source : Act Value) := by
    intro source
    split
    · exact .throw _
    · exact .pure _
  refine .bind (keeps_requireOwn p _) fun _ => ?_
  dsimp only
  split
  · exact .bind (keeps_predicates given) fun P => .bind (.pure _) hchosen
  · exact .bind (.pure _) hchosen

theorem keeps_indexable (v : Value) : Keeps view (indexable v) := by
  unfold indexable
  split
  · exact .pure _
  · refine .bind .get fun s => ?_
    split
    · exact .pure _
    · exact .throw _

theorem keeps_searchAnswer (given response : Value) :
    Keeps view (Elasticsearch.searchAnswer given response) := by
  refine .bind (keeps_predicates given) fun p => ?_
  split <;> exact .pure _

/-! ### Reading sequences -/

section

variable (h : ApartFromReading view)
include h

theorem keeps_itemsOf (v : Value) : Keeps view (itemsOf v) :=
  .bind (keeps_settle h v) fun _ => .lift _

theorem keeps_settleType (type : TypeExpr) (v : Value) : Keeps view (settleType type v) := by
  match type with
  | .optional t => rw [settleType]; exact keeps_settleType t v
  | .listOf t | .tupleOf t =>
    rw [settleType]
    split
    · exact .bind (.mapM (keeps_settleType t) _) fun _ => .pure _
    · exact .pure _
  | .dictOf _ t =>
    cases v with
    | dict es =>
      have hentry : ∀ e : Value × Value,
          Keeps view (do return (e.1, ← settleType t e.2) : Act (Value × Value)) :=
        fun e => .bind (keeps_settleType t e.2) fun _ => .pure _
      exact .bind (.mapM hentry es) fun _ => .pure _
    | _ => exact .pure _
  | .model kind =>
    cases v with
    | dict es => exact keeps_settleShape h kind.shape (.dict es)
    | _ => exact .pure _
  | .int | .float | .str | .bool | .list | .dict | .tuple | .any | .none | .direction |
      .alternatives _ | .handle _ => exact .pure _

theorem keeps_convertIn (type : TypeExpr) (v : Value) : Keeps view (convertIn type v) :=
  .bind (keeps_settleType h type v) fun _ => .lift _

/-- Converting arguments to the declared types is reading them. -/
theorem keeps_convertNamed (sig : Signature) (args : Entries) :
    Keeps view (sig.convertNamed args) := by
  refine .foldlM (fun acc q => ?_) sig.parameters args
  split
  · exact .bind (keeps_convertIn h q.type _) fun _ => .pure _
  · exact .pure _

theorem keeps_compile (p : PredicateSet) (fields : Value) : Keeps view (p.compile fields) := by
  unfold PredicateSet.compile
  split
  · exact .pure _
  · exact .bind (keeps_itemsOf h fields) fun _ => .pure _

theorem keeps_requestOptions (p : PredicateSet) (defaults : Value) :
    Keeps view (p.requestOptions defaults) := by
  unfold PredicateSet.requestOptions
  split
  · exact .bind (.lift _) fun _ => .pure _
  · exact .bind (keeps_entriesIn h defaults) fun _ => .pure _

theorem keeps_bucketKeys (response field : Value) : Keeps view (bucketKeys response field) :=
  .bind (.lift _) fun found => keeps_mapItems h (fun bucket => .lift (bucketKey bucket)) found

theorem keeps_hitIds (results : Value) : Keeps view (hitIds results) :=
  keeps_mapItems h (fun hit => .lift (hitId hit)) _

theorem keeps_hitKeys (results : Value) : Keeps view (hitKeys results) := by
  rw [hitKeys_eq_mapItems]
  exact keeps_mapItems h (fun hit => .lift (hitKey hit)) _

theorem keeps_openSequence (q : Sequence) : Keeps view (openSequence q) :=
  fun s => h.sequences s (s.sequences ++ [q])

theorem keeps_recordsBehind (results source : Value) :
    Keeps view (recordsBehind results source) := by
  refine .bind (keeps_hitKeys h results) fun ids => .bind (keeps_theSource source) fun _ => ?_
  split
  · exact .pure _
  · exact .bind (keeps_fetch h.fetch source false ids) fun records =>
      .bind (keeps_rankRecords ids records) fun _ => .pure _

theorem keeps_recordsLazily (results source : Value) :
    Keeps view (recordsLazily results source) := by
  refine .bind (keeps_hitKeys h results) fun ids => ?_
  split
  · exact .bind (keeps_theSource source) fun _ => keeps_openSequence h _
  · exact keeps_openSequence h _

theorem keeps_clientSettings (P : Provider) : Keeps view (Elasticsearch.clientSettings P) := by
  unfold Elasticsearch.clientSettings
  dsimp only
  split
  · exact fun _ => rfl
  · split
    · exact .pure _
    · exact keeps_writtenOver h _ _

theorem keeps_indexSettings (p : Nat) : Keeps view (Elasticsearch.indexSettings p) := by
  refine .bind (keeps_provider p) fun P => ?_
  unfold IndexSettings.ofConfig
  split
  · exact .bind (keeps_entriesIn h _) fun es => .lift (IndexSettings.ofEntries es)
  · exact .bind (.pure _) fun es => .lift (IndexSettings.ofEntries es)

theorem keeps_deletionBatch (items collection : Value) :
    Keeps view (deletionBatch items collection) :=
  .bind (.lift _) fun b =>
    keeps_foldItems h (fun _ _ => .bind .get fun _ => .lift _) items b

theorem keeps_failedCount? (response : Value) : Keeps view (failedCount? response) := by
  unfold failedCount?
  split
  · split
    · exact .bind (keeps_mapItems h (fun item => .lift (failedResults item)) _) fun _ => .pure _
    · exact .pure _
  · exact .pure _

theorem keeps_indexDocument? (r : Record) : Keeps view r.indexDocument? := by
  unfold Record.indexDocument?
  split
  · exact .pure _
  · have hidentify : ∀ document, Keeps view
        (do return some (← r.identify document) : Act (Option Entries)) :=
      fun document => .bind (.lift _) fun _ => .pure _
    refine .bind (keeps_entriesIn h _) fun document => ?_
    dsimp only
    split
    · exact .bind (keeps_writtenOver h _ _) hidentify
    · exact .bind (.pure _) hidentify

end

/-! ### Writing records and logs -/

section

variable (h : ApartFromWriting view)
include h

theorem keeps_log (level : LogLevel) (name : Option String) (text : String) :
    Keeps view (log level name text) :=
  keeps_emit fun s => h.log s level (loggerName name) text

theorem keeps_putRecord (v : Value) (r : Record) : Keeps view (putRecord v r) := by
  unfold putRecord
  split
  · exact .modify fun s => h.records s _
  · exact .pure _

theorem keeps_addRecord (softDelete : Bool) (b : WriteBatch) (v : Value) :
    Keeps view (addRecord softDelete b v) := by
  refine .bind (keeps_indexable v) fun r => .bind (.lift _) fun r =>
    .bind (keeps_putRecord h v r) fun _ =>
    .bind (keeps_indexDocument? h.toApartFromReading r) fun d => ?_
  split
  · exact .pure _
  · exact .lift _

/-- Building the batch of records marks records and reads sequences. -/
theorem keeps_indexingBatch (softDelete : Bool) (records : Value) :
    Keeps view (indexingBatch softDelete records) :=
  keeps_foldItems h.toApartFromReading (keeps_addRecord h softDelete) _ _

end

end

end SearchKit
