import SearchKit.Proofs.Engine.Forwarding
import SearchKit.Proofs.Engine.Lifecycle
import SearchKit.Proofs.Session.Writing

/-!
# Connections over the operations of an engine

Every way into a provider for Elasticsearch follows the life cycle of its connections: its methods,
its preparation, the carrying out of an operation, and the operations of a component that is bound
to it.  A provider that is made again, as its class makes it, starts anew; that is left out.

* `obeys_sendBatch`, `obeys_executeSearch`, `obeys_runSearch` : what the methods have in common.
* `obeys_method` : the methods.
* `Value.Ordinary` : the operations by which no object is made anew.
* `obeys_runProvider`, `obeys_runComponent`, `obeys_callOperation` : operations on their way to the
  methods.
-/

namespace SearchKit

open Act

variable {p : Nat} {P : Provider} {cs : List Component} {l : Lifecycle}

/-! ### Methods -/

theorem obeys_sendBatch {via : Connection} (hheld : l.held = some via) (b : WriteBatch) :
    Obeys p P cs l (sendBatch via b) fun _ _ => True := by
  unfold sendBatch
  split
  · refine (obeys_send hheld (by simp)).then_keeps fun response =>
      .bind (keeps_failedCount? reading_connections response) fun failed => ?_
    dsimp only
    split
    · exact .bind (keeps_log apart_connections _ _ _) fun _ => .pure _
    · exact .pure _
  · exact .kept (.bind (keeps_log apart_connections _ _ _) fun _ => .pure _)

theorem obeys_executeSearch {via : Connection} (hheld : l.held = some via) (index : Value)
    (set : PredicateSet) (query : CompiledQuery) (options : Entries) :
    Obeys p P cs l (executeSearch via index set query options) fun _ _ => True := by
  unfold executeSearch
  dsimp only
  split
  · exact .after_keeps (.lift _) fun _ => .after_keeps (keeps_log apart_connections _ _ _) fun _ =>
      (obeys_send hheld (by simp)).weaken fun _ _ _ => trivial
  · exact obeys_runCallback (.inl hheld) _ _
  · exact .kept (.throw _)

/-- A search is sent over the connection that is found or built for it. -/
theorem obeys_runSearch (given defaults : Value) :
    Obeys p P cs l (Elasticsearch.runSearch p given defaults) fun _ _ => True :=
  .after_keeps (keeps_requireOwn p _) fun _ =>
  .after_keeps (keeps_predicates given) fun set =>
  .after_keeps (keeps_collectionName p _ _) fun index =>
  .after_keeps (keeps_textFieldsOf _) fun fields =>
  obeys_connection.bind fun _ _ hheld =>
  .after_keeps (keeps_compile reading_connections set fields) fun query =>
  .after_keeps (keeps_requestOptions reading_connections set defaults) fun options =>
  obeys_executeSearch hheld index set query options

theorem obeys_search (given : Value) :
    Obeys p P cs l (Elasticsearch.search p given) fun _ _ => True :=
  .after_keeps (keeps_predicates given) fun _ =>
    (obeys_runSearch given _).then_keeps fun response => keeps_searchAnswer given response

theorem obeys_distinct (given field : Value) :
    Obeys p P cs l (Elasticsearch.distinct p given field) fun _ _ => True := by
  unfold Elasticsearch.distinct
  dsimp only
  split
  · exact .kept fun _ => rfl
  · refine .after_keeps (keeps_predicates given) fun set => ?_
    generalize (if field.isNull then set else { set with distinctField := field }) = wanted
    split
    · exact (obeys_runSearch _ _).then_keeps fun response =>
        .bind (keeps_bucketKeys reading_connections response _) fun _ => .pure _
    · exact .kept fun _ => rfl

theorem obeys_count (given : Value) :
    Obeys p P cs l (Elasticsearch.count p given) fun _ _ => True := by
  refine .after_keeps (keeps_requireOwn p _) fun _ =>
    (obeys_search given).then_keeps fun answer => ?_
  split
  · exact .pure _
  · exact .throw _

theorem obeys_update (records : Value) :
    Obeys p P cs l (Elasticsearch.update p records) fun _ _ => True :=
  obeys_connection.bind fun _ _ hheld =>
  .after_keeps (keeps_provider p) fun _ =>
  .after_keeps (keeps_indexingBatch apart_connections _ records) fun b =>
  (obeys_sendBatch hheld b).then_keeps fun _ => .pure _

theorem obeys_delete (items collection : Value) :
    Obeys p P cs l (Elasticsearch.delete p items collection) fun _ _ => True := by
  refine obeys_connection.bind fun via l' hheld => ?_
  have hdeleted : ∀ collection, Obeys p P cs l' (do
      let b ← deletionBatch items collection
      return Response.withNative .null (← sendBatch via b) : Act Value) fun _ _ => True :=
    fun collection =>
      .after_keeps (keeps_deletionBatch reading_connections items collection) fun b =>
        (obeys_sendBatch hheld b).then_keeps fun _ => .pure _
  dsimp only
  split
  · exact .after_keeps (.pure _) hdeleted
  · exact .after_keeps (keeps_defaultCollection p) hdeleted

theorem obeys_flush (source collection : Value) :
    Obeys p P cs l (Elasticsearch.flush p source collection) fun _ _ => True :=
  .after_keeps (keeps_collectionName p collection source) fun _ =>
  obeys_connection.bind fun _ _ hheld => (obeys_send hheld (by simp)).then_keeps fun _ => .pure _

theorem obeys_createIndex (name options : Value) :
    Obeys p P cs l (Elasticsearch.createIndex p name options) fun _ _ => True :=
  obeys_connection.bind fun _ _ hheld =>
  .after_keeps (keeps_indexSettings reading_connections p) fun settings =>
  .after_keeps (.lift (settings.body name options)) fun _ =>
  (obeys_send hheld (by simp)).then_keeps fun _ => .pure _

theorem obeys_deleteIndex (name : Value) :
    Obeys p P cs l (Elasticsearch.deleteIndex p name) fun _ _ => True :=
  obeys_connection.bind fun _ _ hheld =>
  .after_keeps (keeps_indexSettings reading_connections p) fun _ =>
  (obeys_send hheld (by simp)).then_keeps fun _ => .pure _

/-- Every method of the provider for Elasticsearch follows the life cycle, whatever it is given. -/
theorem obeys_method {name : String} {m : Method} (h : (name, m) ∈ Elasticsearch.methods)
    (a : Arguments) : Obeys p P cs l (m.body p a) fun _ _ => True := by
  have hall : ∀ e ∈ Elasticsearch.methods, Obeys p P cs l (e.2.body p a) fun _ _ => True := by
    simp only [Elasticsearch.methods, Elasticsearch.operations, Elasticsearch.parts,
      List.cons_append, List.nil_append, List.forall_mem_cons, List.not_mem_nil, false_imp_iff,
      implies_true, and_true, Elasticsearch.operation]
    refine ⟨?update, ?delete, ?search, ?paginate, ?distinct, ?count, ?mapIds, ?map, ?lazyMap,
      ?total, ?flush, ?create, ?drop, ?close, ?params, ?collection, ?default, ?source, ?perform⟩
    case update => exact obeys_update _
    case delete => exact obeys_delete _ _
    case search => exact obeys_search _
    case paginate =>
      exact .after_keeps (.lift _) fun _ =>
        (obeys_runSearch _ _).then_keeps fun _ => keeps_searchAnswer _ _
    case distinct => exact obeys_distinct _ _
    case count => exact obeys_count _
    case mapIds => exact .kept (.bind (keeps_hitIds reading_connections _) fun _ => .pure _)
    case map =>
      exact .kept (.bind (keeps_chosenSource p _ _) fun _ =>
        .bind (keeps_recordsBehind reading_connections _ _) fun _ => .pure _)
    case lazyMap =>
      exact .kept (.bind (keeps_chosenSource p _ _) fun _ =>
        .bind (keeps_recordsLazily reading_connections _ _) fun _ => .pure _)
    case total => exact .kept (.pure _)
    case flush => exact obeys_flush _ _
    case create => exact obeys_createIndex _ _
    case drop => exact obeys_deleteIndex _
    case close => exact obeys_close
    case params =>
      exact .kept (.bind (keeps_provider p) fun P =>
        .bind (keeps_clientSettings reading_connections P) fun _ => .pure _)
    case collection => exact .kept (keeps_collectionName p _ _)
    case default => exact .kept (keeps_defaultCollection p)
    case source => exact .kept (keeps_chosenSource p _ _)
    case perform => exact obeys_runSearch _ _
  exact hall _ h

theorem obeys_call {name : String} {m : Method} (h : (name, m) ∈ Elasticsearch.methods)
    (positional : List Value) (keywords : Fields) :
    Obeys p P cs l (m.call p positional keywords) fun _ _ => True :=
  .after_keeps (.lift _) fun a => obeys_method h a

theorem obeys_callConverted {name : String} {m : Method} (h : (name, m) ∈ Elasticsearch.methods)
    (args : Entries) : Obeys p P cs l (m.callConverted p args) fun _ _ => True :=
  .after_keeps (keeps_convertNamed reading_connections m.signature args) fun _ =>
    .after_keeps (.lift _) fun a => obeys_method h a

/-! ### Operations on their way to a provider -/

theorem obeys_prepare (hkind : P.kind = .elasticsearch) (context : Value) :
    Obeys p P cs l (ProviderClasses.standard.prepare p context) fun _ _ => True := by
  refine .after_keeps (keeps_requireOwn p _) fun _ => obeys_provider.bind fun q l' ⟨_, hq⟩ => ?_
  have hq : q.kind = .elasticsearch := by rw [hq]; exact hkind
  rw [hq]
  exact obeys_connection.then_keeps fun _ => .pure _

theorem memberOf?_elasticsearch (hkind : P.kind = .elasticsearch) {held : Option Connection}
    {name : String} (hinit : name ≠ "__init__") {member : Member}
    (h : ProviderClasses.standard.memberOf? (P.holding held) name = some member) :
    (∃ m, member = .method m ∧ (name, m) ∈ Elasticsearch.methods) ∨
    (∃ callback, member = .callback callback ∧ P.hasCallback callback) ∨
    member = .run ∧ name = "__run__" ∨ member = .setup ∨ member = .connection ∨ member = .inert ∨
    ∃ common, member = .common common := by
  unfold ProviderClasses.memberOf? at h
  split at h
  · rename_i v hv
    cases v with
    | callback callback => cases h; exact .inr (.inl ⟨callback, rfl, name, hv⟩)
    | _ => cases h; simp [Member.ofValue]
  · split at h
    · cases h
      simp
    -- the members of the class: the names of its own, the table of methods and what all objects have
    · have hclass : ProviderKind.member? .elasticsearch name = some member := by
        rw [← hkind]
        exact h
      unfold ProviderKind.member? at hclass
      split at hclass
      · cases hclass; simp
      · cases hclass; simp
      · exact absurd rfl hinit
      · cases hclass; simp
      · cases hclass; simp
      · cases hclass; simp
      · cases hclass; simp
      · have hmethods : ProviderKind.methods .elasticsearch = Elasticsearch.methods := rfl
        rw [hmethods] at hclass
        generalize hlookup : Elasticsearch.methods.lookup _ = found at hclass
        cases found with
        | some m =>
          cases hclass
          obtain ⟨before, after, hsplit, -⟩ := List.lookup_eq_some_iff.1 hlookup
          exact .inl ⟨m, rfl, by rw [hsplit]; simp⟩
        | none =>
          have hcommon : commonMember? _ = some member := hclass
          unfold commonMember? at hcommon
          split at hcommon
          · cases hcommon; simp
          · split at hcommon
            · cases hcommon; simp
            · cases hcommon

/-- The operation that a value stands for makes no object anew, and neither does any operation that
it has the provider carry out in turn. -/
inductive Value.Ordinary : Value → Prop
  | intro {v : Value}
    (hname : ∀ op, Operation.ofValue? v = some op → op.name ≠ some "__init__")
    (hwithin : ∀ op, Operation.ofValue? v = some op → op.name = some "__run__" →
      ∀ s es s' a, (runSignature.convertNamed (op.args.getD [])).outcome s = (.ok es, s') →
        runSignature.bindEntries es = .ok a → Ordinary (a.get "operation")) : Ordinary v

theorem Operation.ordinary {op : Operation} (hinit : op.name ≠ some "__init__")
    (hrun : op.name ≠ some "__run__") : op.toValue.Ordinary := by
  have hop : ∀ op', Operation.ofValue? op.toValue = some op' → op' = op := fun op' hop' =>
    (Option.some.inj ((Operation.ofValue?_toValue op).symm.trans hop')).symm
  exact .intro (fun op' hop' => hop op' hop' ▸ hinit)
    fun op' hop' hname => absurd (hop op' hop' ▸ hname) hrun

theorem keeps_unsupported (op : Operation) : Keeps Session.connections (unsupported op) :=
  .bind (keeps_jsonOf reading_connections _ _) fun _ => .throw _

/-- Whatever a provider for Elasticsearch carries out follows the life cycle. -/
theorem obeys_runProvider (hkind : P.kind = .elasticsearch) {operation : Value}
    (hordinary : operation.Ordinary) (fuel : Nat) (context : Value) :
    Obeys p P cs l (runProvider .standard fuel p operation context) fun _ _ => True := by
  -- an operation within an operation has less fuel
  induction fuel generalizing operation context l with
  | zero => exact .kept (.throw _)
  | succ fuel ih =>
    obtain ⟨hname, hwithin⟩ := hordinary
    rw [runProvider]
    cases hop : Operation.ofValue? operation with
    | none =>
      dsimp only
      split <;> exact .kept (.throw _)
    | some op =>
      have hinit : op.name.getD "" ≠ "__init__" := by
        cases hopname : op.name with
        | none => decide
        | some name => exact fun h => hname op hop (hopname.trans (congrArg some h))
      dsimp only
      split
      · exact .kept (keeps_unsupported op)
      · rename_i hempty
        refine obeys_provider.bind fun q l' hq => ?_
        obtain ⟨-, rfl⟩ := hq
        have hprepared := fun {α : Type} {next : Unit → Act α}
            (hnext : ∀ u l'', Obeys p P cs l'' (next u) fun _ _ => True) =>
          (@obeys_prepare p P cs l' hkind context).bind fun u l'' _ => hnext u l''
        cases hmember : ProviderClasses.standard.memberOf? (P.holding l.held) (op.name.getD "") with
        | none => exact .kept (keeps_unsupported op)
        | some member =>
          obtain ⟨m, rfl, hm⟩ | ⟨callback, rfl, hcallback⟩ | ⟨rfl, hrun⟩ | rfl | rfl | rfl |
            ⟨common, rfl⟩ := memberOf?_elasticsearch hkind hinit hmember
          · exact hprepared fun _ _ => obeys_callConverted hm _
          · exact hprepared fun _ _ => .after_keeps (.lift _) fun a =>
              obeys_runCallback (.inr ⟨hcallback, _, rfl⟩) _ _
          · have hrun : op.name = some "__run__" := by
              cases hopname : op.name with
              | none => exact absurd (congrArg (Option.getD · "") hopname) hempty
              | some name => rw [hopname] at hrun; exact congrArg some hrun
            refine hprepared fun _ l₁ => (Obeys.of_keeps_ok
              (keeps_convertNamed reading_connections _ _)).bind fun es l₂ hes => ?_
            obtain ⟨-, s, s', hes⟩ := hes
            refine (Obeys.of_keeps_ok (.lift _)).bind fun a l₃ ha => ?_
            obtain ⟨-, s₁, s₁', ha⟩ := ha
            rw [outcome_lift] at ha
            exact ih (hwithin op hop hrun s es s' a hes (congrArg Prod.fst ha)) _
          · exact hprepared fun _ _ => .after_keeps (keeps_convertNamed reading_connections _ _)
              fun _ => .after_keeps (.lift _) fun a =>
                (obeys_prepare hkind _).then_keeps fun _ => .pure _
          · exact obeys_connection.then_keeps fun _ => keeps_unsupported op
          · exact .kept (keeps_unsupported op)
          · exact hprepared fun _ _ => .kept (.lift _)

/-! ### Components -/

theorem obeys_component {id : Nat} {c : Component} (hc : cs[id]? = some c) :
    Obeys p P cs l (component id) fun c' l' => l' = l ∧ c' = c := by
  intro s hs
  rw [component_outcome (hs.components ▸ hc)]
  refine ⟨[], l, (List.append_nil _).symm, .start, hs, fun c' hc' => ⟨rfl, ?_⟩⟩
  cases hc'
  rfl

theorem keeps_toOperation {γ : Type} {view : Session → γ} (h : ApartFromReading view)
    (operation : Value) : Keeps view (toOperation operation) := by
  unfold toOperation
  split
  · exact keeps_model h .operation _
  · exact .pure _
  · exact .pure _

/-- The data stands for an ordinary operation, if it stands for any. -/
def Value.StandsForOrdinary (operation : Value) : Prop :=
  ∀ s v s', (toOperation operation).outcome s = (.ok v, s') → v.Ordinary

theorem Value.StandsForOrdinary.of_eq {operation v : Value} (h : v.Ordinary)
    (hoperation : toOperation operation = pure v) : operation.StandsForOrdinary := by
  intro s v' s' hv
  rw [hoperation] at hv
  cases hv
  exact h

/-- Whatever a component that is bound to the provider carries out follows the life cycle. -/
theorem obeys_runComponent (hkind : P.kind = .elasticsearch) {id : Nat} {c : Component}
    (hc : cs[id]? = some c) (hbound : c.provider = some p) {operation : Value}
    (hordinary : operation.StandsForOrdinary) (context : Value) :
    Obeys p P cs l (runComponent .standard id operation context) fun _ _ => True := by
  rw [runComponent, runWithin]
  refine .after_keeps (keeps_contextFor reading_connections context) fun context =>
    (Obeys.of_keeps_ok (keeps_toOperation reading_connections operation)).bind fun v l' hv => ?_
  obtain ⟨-, s, s', hv⟩ := hv
  refine (obeys_component hc).bind fun c' l'' hc' => ?_
  obtain ⟨-, rfl⟩ := hc'
  rw [hbound]
  dsimp only
  refine .after_keeps (keeps_requireOwn p _) fun _ =>
    (obeys_runProvider hkind (hordinary s v s' hv) _ context).then_keeps fun answer => ?_
  exact .bind (keeps_component id) fun _ => .pure _

/-- Calling an operation of a search engine that is bound to the provider follows the life cycle. -/
theorem obeys_callOperation (hkind : P.kind = .elasticsearch) {id : Nat} {c : Component}
    (hc : cs[id]? = some c) (hbound : c.provider = some p) {name : String} {operation : Method}
    (hoperation : (name, operation) ∈ SearchEngine.operations) (positional : List Value)
    (keywords : Fields) :
    Obeys p P cs l (callOperation .standard id name operation positional keywords)
      fun _ _ => True := by
  have hnames : ∀ e ∈ SearchEngine.operations, e.1 ≠ "__init__" ∧ e.1 ≠ "__run__" := by
    simp [SearchEngine.operations]
  obtain ⟨hinit, hrun⟩ := hnames _ hoperation
  have hfallback : ∀ a l₁, Obeys p P cs l₁ (operation.body id a) fun _ _ => True := fun a l₁ => by
    rw [SearchEngine.body_of_operation hoperation]
    exact .kept (.throw _)
  unfold callOperation
  refine (obeys_component hc).bind fun c₁ l₁ hc₁ => ?_
  obtain ⟨-, rfl⟩ := hc₁
  rw [hbound]
  refine .after_keeps (.lift _) fun a => (Obeys.of_keeps_ok
    (keeps_ofCall reading_connections _ _)).bind fun op l₂ hop => .tryCatch ?_ ?_
  · obtain ⟨-, s, s', hop⟩ := hop
    have hname : op.name = some name := name_of_ofCall hop
    have hordinary : op.toValue.Ordinary := Operation.ordinary
      (fun h => hinit (Option.some.inj (hname.symm.trans h)))
      fun h => hrun (Option.some.inj (hname.symm.trans h))
    exact obeys_runComponent hkind hc hbound (.of_eq hordinary rfl) _
  · intro fault l₃
    split
    · exact .after_keeps (.lift _) fun a => hfallback a l₃
    · exact .kept (.throw _)

end SearchKit
