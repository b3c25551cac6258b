import SearchKit.Proofs.Engine.Defaults
import SearchKit.Proofs.Query.Layers

/-!
# Searches

A search of a component comes to its provider once that is ready.  There the collection is chosen,
the query is compiled and the body of the request is laid out; none of this reaches the outside.  So
all that does is one request, or one call of the callback in its place.

* `Session.outward` : the requests and the callbacks of a session so far.
* `Connection.outcome_send` : a request over a connection that takes it.
* `outcome_runSearch` : what comes before the call to the outside.
* `AddressedCall.searching?` : the operations that search, with their defaults, and
  `AddressedCall.outcome_callOperation_of_searching` that they are that call.
* `SearchEngine.search_asks_once` : **what a search asks, and what it answers**.
-/

namespace SearchKit

open Act

variable {s s' s₁ : Session} {p id : Nat} {P : Provider} {c : Component}

/-! ### Calls to the outside -/

/-- The entry of the trace is a request, or the call of a callback in the place of one. -/
def Event.outward? : Event → Option Event
  | .request via r => some (.request via r)
  | .callback via name query body => some (.callback via name query body)
  | _ => none

/-- The requests of a session so far and the callbacks in the place of one, in order. -/
def Session.outward (s : Session) : List Event := s.trace.filterMap Event.outward?

theorem preparing_outward : ApartFromPreparing Session.outward :=
  apart_trace (fun _ _ _ => rfl) (fun _ _ _ => rfl) (fun _ => rfl) fun _ _ => rfl

/-- The connection takes a request: there is one, and if it is a client, the request can be made
of it. -/
def Connection.Takes (via : Connection) (r : Request) : Prop :=
  match via with
  | .host => True
  | .client _ => r.fitsClient = true
  | .unusable _ => False

/-- A request over a connection that takes it is answered by the next answer of the backend. -/
theorem Connection.outcome_send {via : Connection} {r : Request} (htakes : via.Takes r)
    (hr : r ≠ .close) (s : Session) :
    (send via r).outcome s = (Reply.given s.replies.head?,
      { s with trace := s.trace ++ [.request via r], replies := s.replies.tail }) := by
  have hasked : (do emit (.request via r); nextReply : Act Value).outcome s =
      (Reply.given s.replies.head?,
        { s with trace := s.trace ++ [.request via r], replies := s.replies.tail }) :=
    outcome_nextReply _
  cases via with
  | host => exact hasked
  | client n =>
    have hfits : r.fitsClient = true := htakes
    unfold send
    dsimp only
    rw [if_pos hfits]
    cases r with
    | close => exact absurd rfl hr
    | _ => exact hasked
  | unusable v => exact htakes.elim

/-- A callback is called once, and forwards the search at most once by itself. -/
theorem outward_runCallback (via : Connection) (name : String) (query body : Value) (s : Session) :
    ∃ more, ((runCallback via name query body).outcome s).2.outward =
        s.outward ++ .callback via name query body :: more ∧
      (more = [] ∨ ∃ index, s.callbacks.lookup name = some (.forwards index) ∧
        more = [.request via (.search index body)]) := by
  let s₁ : Session := { s with trace := s.trace ++ [.callback via name query body] }
  have hcalled : s₁.outward = s.outward ++ [.callback via name query body] := by
    simp [Session.outward, s₁, Event.outward?]
  have hemit : (emit (.callback via name query body)).outcome s = (.ok ⟨⟩, s₁) := rfl
  rw [runCallback, outcome_bind_ok hemit, outcome_bind_ok (outcome_get s₁)]
  split
  · exact ⟨[], hcalled, .inl rfl⟩
  · exact ⟨[], hcalled, .inl rfl⟩
  · rename_i index hforwards
    rcases @session_send via (.search index body) nofun s₁ with hnone | hasked
    · exact ⟨[], by rw [hnone, hcalled], .inl rfl⟩
    · refine ⟨_, ?_, .inr ⟨index, hforwards, rfl⟩⟩
      rw [hasked]
      simp [Session.outward, s₁, Event.outward?]
  · exact ⟨[], hcalled, .inl rfl⟩

theorem keeps_runCallback {γ : Type} {view : Session → γ} (h : ApartFromBackend view)
    (via : Connection) (name : String) (query body : Value) :
    Keeps view (runCallback via name query body) := by
  refine .bind (keeps_emit fun s => h s _ _ _ _ _) fun _ => .bind .get fun s => ?_
  split
  · exact .throw _
  · exact .pure _
  · exact keeps_send h _ _
  · exact .throw _

/-! ### One search -/

section

variable {set : PredicateSet}

theorem executeSearch_of_null (h : set.callback = .null) (via : Connection) (index : Value)
    (query : CompiledQuery) (options : Entries) :
    executeSearch via index set query options = (do
      log .debug (some "executor") ("Searching " ++ (← index.spell))
      send via (.search index (.dict (PredicateSet.requestBody query options)))) := by
  rw [executeSearch, h]

theorem executeSearch_of_callback {name : String} (h : set.callback = .callback name)
    (via : Connection) (index : Value) (query : CompiledQuery) (options : Entries) :
    executeSearch via index set query options =
      runCallback via name (.str set.query)
        (.dict (PredicateSet.requestBody query options)) := by
  rw [executeSearch, h]

end

theorem outward_logged_send {via : Connection} {r : Request} (htakes : via.Takes r)
    (hr : r ≠ .close) (level : LogLevel) (logger : Option String) (text : String) (s : Session) :
    ((do log level logger text; send via r : Act Value).outcome s).2.outward =
      s.outward ++ [.request via r] := by
  have hlog : (log level logger text).outcome s = (.ok ⟨⟩,
      { s with trace := s.trace ++ [.log level (loggerName logger) text] }) := rfl
  rw [outcome_bind_ok hlog, via.outcome_send htakes hr]
  simp only [Session.outward, List.filterMap_append, List.append_assoc]
  rfl

theorem keeps_components_executeSearch (via : Connection) (index : Value) (set : PredicateSet)
    (query : CompiledQuery) (options : Entries) :
    Keeps Session.components (executeSearch via index set query options) := by
  unfold executeSearch
  dsimp only
  split
  · exact .bind (.lift _) fun _ => .bind (keeps_emit fun _ => rfl) fun _ =>
      keeps_send apart_backend_components _ _
  · exact keeps_runCallback apart_backend_components _ _ _ _
  · exact .throw _

/-! ### The operations that search -/

namespace AddressedCall

/-- The defaults of a search. -/
def searchDefaults (set : PredicateSet) : Entries := [
  (.str "_source", .bool true), (.str "size", if set.limit.truthy then set.limit else .int 10000),
  (.str "from", set.offset)]

/-- The defaults of a page: it has ten hits if its size is given as zero, and no hits are skipped on
the first one. -/
def pageDefaults (perPage page : Int) : Entries :=
  let size := if perPage = 0 then 10 else perPage
  let start := (page - 1) * size
  (.str "_source", .bool true) :: (.str "size", .int size) ::
    if start = 0 then [] else [(.str "from", .int start)]

/-- The predicate set of an operation that searches, and its defaults. -/
def searching? : AddressedCall → Option (PredicateSet × Entries)
  | search set => some (set, searchDefaults set)
  | paginate set perPage page => some (set, pageDefaults perPage page)
  | _ => none

theorem pageWindow_eq (perPage page : Int) :
    Elasticsearch.pageWindow (.int perPage) (.int page) = .ok (pageDefaults perPage page) := by
  have hsize : Elasticsearch.orElse (.int perPage) Elasticsearch.defaultPageSize =
      .int (if perPage = 0 then 10 else perPage) := by
    unfold Elasticsearch.orElse
    by_cases h : perPage = 0 <;> simp [Value.truthy, h, Elasticsearch.defaultPageSize]
  have hnonzero : (if perPage = 0 then 10 else perPage) ≠ 0 := by split <;> omega
  rw [Elasticsearch.pageWindow, hsize, pageDefaults]
  generalize (if perPage = 0 then 10 else perPage) = size at hnonzero
  have hminus : (Value.int page).minus (.int 1) = .ok (.int (page - 1)) := rfl
  have htimes : (Value.int (page - 1)).times (.int size) = .ok (.int ((page - 1) * size)) := rfl
  simp only [hminus, htimes, bind, Except.bind]
  generalize (page - 1) * size = start
  by_cases hstart : start = 0 <;>
    simp [Entries.ofFields, Value.truthy, hstart, hnonzero, pure, Except.pure]

variable {q : AddressedCall} {set : PredicateSet} {defaults : Entries}

theorem textKeyed_defaults (h : q.searching? = some (set, defaults)) : defaults.TextKeyed := by
  cases q with
  | search => cases h; constructor <;> simp [searchDefaults, Assoc.Distinct]
  | paginate set perPage page =>
    cases h
    unfold pageDefaults
    dsimp only
    generalize (page - 1) * (if perPage = 0 then 10 else perPage) = start
    by_cases hstart : start = 0 <;> constructor <;> simp [Assoc.Distinct, hstart]
  | _ => cases h

theorem act_of_searching (h : q.searching? = some (set, defaults)) (p : Nat) :
    q.act p = Elasticsearch.runSearch p set.toValue (.dict defaults) >>=
      Elasticsearch.searchAnswer set.toValue := by
  cases q with
  | search set =>
    cases h
    rw [act, Elasticsearch.search, predicates_toValue, pure_bind]
    rfl
  | paginate set perPage page =>
    cases h
    rw [act, Elasticsearch.paginate, pageWindow_eq, Act.lift_ok, pure_bind]
  | _ => cases h

end AddressedCall

/-! ### The method of the provider -/

/-- The text fields of a source have names; without a source there are none. -/
def Session.NamesTexts (s : Session) (source : Value) (names : List Value) : Prop :=
  source = .null ∧ names = [] ∨
    ∃ found, sourceOf? s source = some found ∧ NamesIn found.2.fields names

theorem Session.NamesTexts.congr {source : Value} {names : List Value}
    (h : s.NamesTexts source names) (hsources : s'.sources = s.sources) :
    s'.NamesTexts source names := by
  have hsame : sourceOf? s' source = sourceOf? s source := by
    cases source <;> simp [sourceOf?, hsources]
  rwa [NamesTexts, hsame]

theorem outcome_textFieldsOf {source : Value} {names : List Value}
    (h : s.NamesTexts source names) : ∃ fields,
      (Elasticsearch.textFieldsOf source).outcome s = (.ok fields, s) ∧ NamesIn fields names := by
  obtain ⟨rfl, rfl⟩ | ⟨⟨name, found⟩, hfound, hnames⟩ := h
  · exact ⟨.list [], rfl, .inl rfl⟩
  · have hsource : (theSource source).outcome s = (.ok (name, found), s) := by
      rw [theSource, outcome_bind_ok (outcome_get s), hfound]
      rfl
    have hnull : source.isNull = false := by
      cases source with
      | null => cases hfound
      | _ => rfl
    refine ⟨found.fields, ?_, hnames⟩
    rw [Elasticsearch.textFieldsOf, hnull, if_neg Bool.false_ne_true, outcome_bind_ok hsource]
    rfl

/-- What comes before the call to the outside leaves the session as it is. -/
theorem outcome_runSearch {set : PredicateSet} {defaults options : Entries} {index : Value}
    {names : List Value} (hp : s.providers[p]? = some P) (hown : P.AddressesByItself)
    (hopen : P.ready = true) (hchosen : s.chosen? P set.index set.source = some index)
    (htruthy : index.truthy = true) (hnames : s.NamesTexts set.source names)
    (hoptions : set.requestOptions (.dict defaults) = pure options) :
    (Elasticsearch.runSearch p set.toValue (.dict defaults)).outcome s =
      (executeSearch (P.connection.getD (.unusable .null)) index set (set.compileWith names)
        options).outcome s := by
  have hname :
      (Elasticsearch.collectionName p set.index set.source).outcome s = (.ok index, s) := by
    rw [outcome_collectionName hp (hown _ (by simp)) (hown _ (by simp)), hchosen]
    dsimp only
    rw [if_pos htruthy]
  obtain ⟨fields, hfields, hnamed⟩ := outcome_textFieldsOf hnames
  have hconnection : (Elasticsearch.connection p).outcome s =
      (.ok (P.connection.getD (.unusable .null)), s) := by
    rw [Elasticsearch.connection, outcome_bind_ok (provider_outcome hp), if_pos hopen]
    rfl
  rw [Elasticsearch.runSearch, outcome_bind_ok (requireOwn_outcome hp (hown _ (by simp))),
    predicates_toValue, pure_bind, outcome_bind_ok hname, outcome_bind_ok hfields,
    outcome_bind_ok hconnection, PredicateSet.compile_eq hnamed, pure_bind, hoptions, pure_bind]

/-! ### What a search asks -/

/-- The provider is ready and holds a connection. -/
def Session.Holds (s : Session) (p : Nat) (via : Connection) : Prop :=
  ∃ P, s.providers[p]? = some P ∧ P.ready = true ∧
    P.connection.getD (.unusable .null) = via

/-- The answer of a search: the hits of the response and the response itself, or what the callback
gives. -/
def PredicateSet.answer (set : PredicateSet) (response : Value) : Value :=
  if set.callback.isNull then Response.withNative (hitsSection response) response
  else Response.toValue { result := response }

theorem PredicateSet.answer_of_null {set : PredicateSet} (h : set.callback = .null) :
    set.answer = fun response => Response.withNative (hitsSection response) response := by
  funext response
  rw [answer, h]
  rfl

theorem PredicateSet.answer_of_callback {set : PredicateSet} {name : String}
    (h : set.callback = .callback name) :
    set.answer = fun response => Response.toValue { result := response } := by
  funext response
  rw [answer, h]
  rfl

/-- How an operation of a component ends that ends in an answer or a fault of its provider. -/
def Component.ended (c : Component) (answer : Value → Value) :
    Except Fault Value × Session → Except Fault Value × Session
  | (.ok response, s) => (.ok (c.present (answer response)), s)
  | (.error fault, s) => (.error fault.told, s)

namespace AddressedCall

variable {q : AddressedCall} {set : PredicateSet} {defaults : Entries} {operation : Method}
  {positional : List Value} {keywords : Fields} {a : Arguments} {index : Value}
  {names : List Value}

/-- An operation that searches is the call to the outside, with the body that has been laid out,
once the provider is ready. -/
theorem outcome_callOperation_of_searching
    (hoperation : (q.name, operation) ∈ SearchEngine.operations)
    (hc : s.components[id]? = some c) (hbound : c.provider = some p)
    (hp : s.providers[p]? = some P) (hkind : P.kind = .elasticsearch) (hown : P.AddressesByItself)
    (hkeywords : Fields.Distinct (keywords.erase contextKeyword))
    (hbind : operation.signature.bind positional (keywords.erase contextKeyword) = .ok a)
    (hnamed : a.named = q.arguments) (hsearching : q.searching? = some (set, defaults))
    (hready : (readying p (keywords.getD contextKeyword)).outcome s = (.ok (), s₁))
    (hchosen : s.chosen? P set.index set.source = some index) (htruthy : index.truthy = true)
    (hnames : s.NamesTexts set.source names) (hoptions : set.options.Distinct)
    (hfield : set.distinctField.truthy = true →
      set.distinctField.hasText = true ∧ set.distinctField.hashable = true) :
    ∃ via options, s₁.Holds p via ∧
      set.LaysOut defaults (set.compileWith names)
        (PredicateSet.requestBody (set.compileWith names) options) ∧
      (callOperation .standard id q.name operation positional keywords).outcome s =
        c.ended set.answer
          ((executeSearch via index set (set.compileWith names) options).outcome s₁) := by
  obtain ⟨P₁, hp₁, hopen, hown₁, hnaming, hsame⟩ := readying_ok hp hkind hown hready
  obtain ⟨-, hsources, hcomponents, -⟩ : s₁.records = s.records ∧ s₁.sources = s.sources ∧
      s₁.components = s.components ∧ _ := by
    simpa only [Session.naming, Prod.mk.injEq] using hnaming
  obtain ⟨options, hrequest, hbody⟩ := PredicateSet.requestBody_laysOut
    (textKeyed_defaults hsearching) hoptions hfield (set.compileWith names)
  refine ⟨_, options, ⟨P₁, hp₁, hopen, rfl⟩, hbody, ?_⟩
  have hrun := outcome_runSearch hp₁ hown₁ hopen ((hsame _ _).trans hchosen) htruthy
    (hnames.congr hsources) hrequest
  have hanswer : ∀ response, Elasticsearch.searchAnswer set.toValue response =
      pure (set.answer response) := fun response => by
    rw [Elasticsearch.searchAnswer, predicates_toValue, pure_bind, PredicateSet.answer]
    split <;> rfl
  rw [outcome_callOperation hoperation hc hbound hp hkind hown hkeywords hbind hnamed,
    outcome_bind_ok hready, act_of_searching hsearching, outcome_bind, hrun]
  rcases hends : (executeSearch (P₁.connection.getD (.unusable .null)) index set
    (set.compileWith names) options).outcome s₁ with ⟨fault | response, s'⟩
  · rfl
  · have hkept := (keeps_components_executeSearch _ _ _ _ _).after hends
    have hc' : s'.components[id]? = some c := by rw [hkept, hcomponents, hc]
    dsimp only
    rw [hanswer, outcome_pure]
    dsimp only
    rw [component, bind_assoc, outcome_bind_ok (outcome_get s'), hc']
    rfl

end AddressedCall

/-- The pages of the search engine. -/
def SearchEngine.paging : Method :=
  leftToProvider [
    Elasticsearch.predicatesParameter,
    { name := "per_page", type := .int, fallback := some (.int 10) },
    { name := "page", type := .int, fallback := some (.int 1) }]

/-- A search engine with a source of posts, whose titles are searched. -/
def Session.ofPosts : Session where
  sources := [("posts", {
    records := [], collection := .str "posts", fields := .list [.str "title"], failure := none })]
  replies := [.answer (.dict [(.str "hits", .dict [(.str "total", .int 3)])])]
  providers := [{
    kind := .elasticsearch, connection := some .host, ready := true, owner := some 0 }]
  components := [{ kind := .searchEngine, provider := some 0 }]

end SearchKit
