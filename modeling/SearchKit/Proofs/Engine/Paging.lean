import SearchKit.Proofs.Engine.Searching
import Mathlib.Data.Set.Lattice
import Mathlib.Order.Interval.Set.Defs

/-!
# Pages

A page of hits is asked for by a window, a number of hits and a number of hits to skip, in the body
of a search.  What stands in the predicate set has no part in it: a limit and an offset are those
of a search without pages, and sort clauses and the query are entries of their own.  Only the options
and the aggregation of distinct values can take the place of the window.

* `Entries.Spans`, `Entries.hits` : the window that a body asks for.
* `Session.Sends`, `Act.sent` : the bodies that a call gives to the outside, in requests and to
  callbacks.
* `PageCall` : the calls for a page, of a provider and of a component.
* `PageCall.sends` : the window in every body of a call.
* `Elasticsearch.pages_tile` : **pages tile the hits**.
-/

namespace SearchKit

open Act

variable {s s' s₁ : Session} {p : Nat}

/-! ### Windows -/

/-- The body asks for a number of hits behind another number of hits, none if it does not say. -/
structure Entries.Spans (body : Entries) (start size : Int) : Prop where
  /-- It names the number of hits. -/
  size : body.field? "size" = some (.int size)
  /-- It names the number of hits to skip, unless there are none. -/
  start : body.field? "from" = some (.int start) ∨ body.field? "from" = none ∧ start = 0

/-- The hits that a body asks for, counted from the first of all. -/
def Entries.hits (body : Entries) : Set Int :=
  {hit | ∃ start size, Entries.Spans body start size ∧ hit ∈ Set.Ico start (start + size)}

theorem Entries.Spans.unique {body : Entries} {start size start' size' : Int}
    (h : body.Spans start size) (h' : body.Spans start' size') :
    start = start' ∧ size = size' := by
  have hsize := h.size.symm.trans h'.size
  refine ⟨?_, Value.int.inj (Option.some.inj hsize)⟩
  obtain hfrom | ⟨hfrom, rfl⟩ := h.start
  · obtain hfrom' | ⟨hfrom', -⟩ := h'.start
    · exact Value.int.inj (Option.some.inj (hfrom.symm.trans hfrom'))
    · cases hfrom.symm.trans hfrom'
  · obtain hfrom' | ⟨-, rfl⟩ := h'.start
    · cases hfrom.symm.trans hfrom'
    · rfl

theorem Entries.hits_of_spans {body : Entries} {start size : Int} (h : body.Spans start size) :
    Entries.hits body = Set.Ico start (start + size) := by
  ext hit
  constructor
  · rintro ⟨start', size', h', hhit⟩
    obtain ⟨rfl, rfl⟩ := h.unique h'
    exact hhit
  · exact fun hhit => ⟨start, size, h, hhit⟩

/-- The size of a page: ten hits if none is given, or zero. -/
def pageSize (perPage : Option Int) : Int := if perPage.getD 0 = 0 then 10 else perPage.getD 0

theorem pageSize_pos {perPage : Option Int} (h : ∀ size, perPage = some size → 0 ≤ size) :
    0 < pageSize perPage := by
  rw [pageSize]
  cases perPage with
  | none => decide
  | some size =>
    have hsize : 0 ≤ size := h size rfl
    rw [Option.getD_some]
    split <;> omega

/-- A body asks for the window of a page: as many hits as a page has, behind those of the pages
before it. -/
def AsksForPage (perPage : Option Int) (page : Int) (body : Value) : Prop :=
  ∃ es : Entries, body = .dict es ∧ es.Spans ((page - 1) * pageSize perPage) (pageSize perPage)

/-- The size of a page as an argument, null if none is given. -/
def optionalCount (perPage : Option Int) : Value := (perPage.map Value.int).getD .null

theorem pageWindow_optional (perPage : Option Int) (page : Int) :
    Elasticsearch.pageWindow (optionalCount perPage) (.int page) =
      .ok (AddressedCall.pageDefaults (perPage.getD 0) page) := by
  cases perPage with
  | none =>
    have hzero : Elasticsearch.pageWindow .null (.int page) =
        Elasticsearch.pageWindow (.int 0) (.int page) := rfl
    exact hzero.trans (AddressedCall.pageWindow_eq 0 page)
  | some size => exact AddressedCall.pageWindow_eq size page

theorem spans_pageDefaults (perPage : Option Int) (page : Int) :
    Entries.Spans (AddressedCall.pageDefaults (perPage.getD 0) page)
      ((page - 1) * pageSize perPage) (pageSize perPage) := by
  rw [AddressedCall.pageDefaults, ← pageSize]
  refine ⟨rfl, ?_⟩
  by_cases hstart : (page - 1) * pageSize perPage = 0
  · rw [if_pos hstart]
    exact .inr ⟨rfl, hstart⟩
  · rw [if_neg hstart]
    exact .inl rfl

/-! ### The body of a page -/

/-- A predicate set leaves the window of a page alone: it asks for no distinct values, and its
options name no window of their own. -/
structure PredicateSet.LeavesWindow (set : PredicateSet) : Prop where
  /-- No distinct values are wanted. -/
  field : set.distinctField.truthy = false
  /-- The options name no number of hits. -/
  size : set.options.field? "size" = none
  /-- The options name no number of hits to skip. -/
  start : set.options.field? "from" = none

theorem PredicateSet.LeavesWindow.spans_requestBody {set : PredicateSet} {defaults : Entries}
    {start size : Int} (h : set.LeavesWindow) (hdefaults : defaults.TextKeyed)
    (hspans : defaults.Spans start size) :
    ∃ options, set.requestOptions (.dict defaults) = pure options ∧
      ∀ query, Entries.Spans (PredicateSet.requestBody query options) start size := by
  have hfield : ¬ set.distinctField.truthy = true := by simp [h.field]
  obtain ⟨base, -, hbase, hrequest⟩ :=
    PredicateSet.requestOptions_eq hdefaults fun htruthy => absurd htruthy hfield
  refine ⟨_, hrequest, fun query => ?_⟩
  have hentry : ∀ {name : String}, name ≠ "query" → name ≠ "sort" →
      set.options.field? name = none →
      Assoc.field? name (PredicateSet.requestBody query (base.update set.options)) =
        defaults.field? name := by
    intro name hquery hsort hnone
    have hother : ∀ {other : String}, name ≠ other →
        Value.sameKey (.str other) (.str name) = false := fun hne =>
      Bool.eq_false_iff.2 fun hsame => hne (Value.str.inj (Value.sameKey_str_left.1 hsame))
    rw [Assoc.field?, PredicateSet.get?_requestBody, hother hquery, Bool.false_and,
      if_neg Bool.false_ne_true, Assoc.get?_update_of_absent hnone, hbase,
      PredicateSet.baseLayer, if_neg hfield, hother hsort, Bool.false_and,
      if_neg Bool.false_ne_true]
  refine ⟨(hentry (by decide) (by decide) h.size).trans hspans.size, ?_⟩
  rw [hentry (by decide) (by decide) h.start]
  exact hspans.start

/-! ### Bodies given to the outside -/

/-- The body of a search in a call to the outside. -/
def Event.searchBody? : Event → Option Value
  | .request _ (.search _ body) | .callback _ _ _ body => some body
  | _ => none

/-- The bodies of searches that a call gives to the outside. -/
def Act.sent {α : Type} (act : Act α) (s : Session) : List Value :=
  ((act.outcome s).2.outward.drop s.outward.length).filterMap Event.searchBody?

/-- What ends here has given bodies of a kind to the outside since a session, and at least one if
it has gone well. -/
def Session.Sends {α : Type} (s : Session) (kind : Value → Prop)
    (ends : Except Fault α × Session) : Prop :=
  ∃ events, ends.2.outward = s.outward ++ events ∧
    (∀ body ∈ events.filterMap Event.searchBody?, kind body) ∧
    ∀ a, ends.1 = .ok a → events.filterMap Event.searchBody? ≠ []

namespace Session.Sends

variable {α β : Type} {kind : Value → Prop}

theorem of_fault (fault : Fault) (h : s'.outward = s.outward) :
    s.Sends kind ((.error fault, s') : Except Fault α × Session) :=
  ⟨[], by simpa using h, by simp, nofun⟩

theorem bind_keeps {act : Act α} {next : α → Act β} (hact : Keeps Session.outward act)
    (hnext : ∀ a s₁, act.outcome s = (.ok a, s₁) → s₁.Sends kind ((next a).outcome s₁)) :
    s.Sends kind ((act >>= next).outcome s) := by
  rw [outcome_bind]
  rcases h : act.outcome s with ⟨fault | a, s₁⟩
  · exact .of_fault fault (hact.after h)
  · obtain ⟨events, hevents, hkind, hsome⟩ := hnext a s₁ h
    exact ⟨events, by rw [hevents, hact.after h], hkind, hsome⟩

theorem told {fault : Fault}
    (h : s.Sends kind ((.error fault, s₁) : Except Fault α × Session)) (fault' : Fault) :
    s.Sends kind ((.error fault', s₁) : Except Fault β × Session) := by
  obtain ⟨events, hevents, hkind, -⟩ := h
  exact ⟨events, hevents, hkind, nofun⟩

theorem followed {a : α} {ends : Except Fault β × Session} (h : s.Sends kind (.ok a, s₁))
    (hends : ends.2.outward = s₁.outward) : s.Sends kind ends := by
  obtain ⟨events, hevents, hkind, hsome⟩ := h
  exact ⟨events, hends.trans hevents, hkind, fun _ _ => hsome a rfl⟩

theorem then_keeps {act : Act α} {next : α → Act β} (hact : s.Sends kind (act.outcome s))
    (hnext : ∀ a, Keeps Session.outward (next a)) :
    s.Sends kind ((act >>= next).outcome s) := by
  rw [outcome_bind]
  rcases h : act.outcome s with ⟨fault | a, s₁⟩
  · rw [h] at hact
    exact hact.told fault
  · rw [h] at hact
    exact hact.followed (hnext a s₁)

/-- What a call has sent, taken from the session that it leaves. -/
theorem sent {act : Act α} (h : s.Sends kind (act.outcome s)) :
    (∀ body ∈ act.sent s, kind body) ∧
      ∀ a s', act.outcome s = (.ok a, s') → act.sent s ≠ [] := by
  obtain ⟨events, hevents, hkind, hsome⟩ := h
  have hsent : act.sent s = events.filterMap Event.searchBody? := by
    rw [Act.sent, hevents, List.drop_left]
  rw [hsent]
  exact ⟨hkind, fun a s' hends => hsome a (congrArg Prod.fst hends)⟩

end Session.Sends

theorem Connection.outcome_send_of_not_takes {via : Connection} {r : Request} (h : ¬ via.Takes r)
    (s : Session) : ∃ fault, (send via r).outcome s = (.error fault, s) := by
  cases via with
  | host => exact absurd trivial h
  | client n =>
    refine ⟨.wrongType, ?_⟩
    have hfits : ¬ r.fitsClient = true := h
    unfold send
    dsimp only
    rw [if_neg hfits]
    rfl
  | unusable v => exact ⟨.noPart, rfl⟩

theorem sends_executeSearch (via : Connection) (index : Value) (set : PredicateSet)
    (query : CompiledQuery) (options : Entries) (s : Session) :
    s.Sends (· = .dict (PredicateSet.requestBody query options))
      ((executeSearch via index set query options).outcome s) := by
  unfold executeSearch
  dsimp only
  generalize Value.dict (PredicateSet.requestBody query options) = body
  split
  · refine .bind_keeps (.lift _) fun name s _ => ?_
    by_cases htakes : via.Takes (.search index body)
    · refine ⟨_, outward_logged_send htakes nofun _ _ _ s, ?_, fun _ _ => List.cons_ne_nil _ _⟩
      intro sent hsent
      exact List.mem_singleton.1 hsent
    · refine .bind_keeps (keeps_log preparing_outward.toApartFromWriting _ _ _) fun _ s₁ _ => ?_
      obtain ⟨fault, hfault⟩ := via.outcome_send_of_not_takes htakes s₁
      rw [hfault]
      exact .of_fault fault rfl
  · rename_i name _
    obtain ⟨more, hcalled, hmore⟩ := outward_runCallback via name (.str set.query) body s
    refine ⟨_, hcalled, fun sent hsent => ?_, fun _ _ => List.cons_ne_nil _ _⟩
    rcases List.mem_cons.1 hsent with rfl | hsent
    · rfl
    · -- the callback may have forwarded the search, with the body that it was given
      obtain rfl | ⟨other, -, rfl⟩ := hmore
      · cases hsent
      · exact List.mem_singleton.1 hsent
  · exact .of_fault .wrongType rfl

theorem sends_paginate {set : PredicateSet} (hset : set.LeavesWindow) (p : Nat)
    (perPage : Option Int) (page : Int) (s : Session) :
    s.Sends (AsksForPage perPage page)
      ((Elasticsearch.paginate p set.toValue (optionalCount perPage) (.int page)).outcome s) := by
  have hreading := preparing_outward.toApartFromReading
  have hdefaults : Entries.TextKeyed (AddressedCall.pageDefaults (perPage.getD 0) page) :=
    AddressedCall.textKeyed_defaults (q := .paginate set (perPage.getD 0) page) rfl
  obtain ⟨options, hoptions, hspans⟩ :=
    hset.spans_requestBody hdefaults (spans_pageDefaults perPage page)
  rw [Elasticsearch.paginate, pageWindow_optional, lift_ok, pure_bind]
  refine .then_keeps ?_ fun response => keeps_searchAnswer _ _
  rw [Elasticsearch.runSearch, predicates_toValue]
  refine .bind_keeps (keeps_requireOwn p _) fun _ s₁ _ => ?_
  rw [pure_bind]
  refine .bind_keeps (keeps_collectionName p _ _) fun index s₂ _ =>
    .bind_keeps (keeps_textFieldsOf _) fun fields s₃ _ =>
    .bind_keeps (preparing_outward.keeps_connection p) fun via s₄ _ =>
    .bind_keeps (keeps_compile hreading set fields) fun query s₅ _ => ?_
  rw [hoptions, pure_bind]
  obtain ⟨events, hevents, hbodies, hsome⟩ := sends_executeSearch via index set query options s₅
  exact ⟨events, hevents, fun body hbody => ⟨_, hbodies body hbody, hspans query⟩, hsome⟩

/-! ### Calls for a page -/

/-- A call for a page of the hits of a predicate set: of the method of a provider for Elasticsearch,
or of the operation of a search engine that is bound to one with a method of its own. -/
inductive PageCall (set : PredicateSet) (perPage : Option Int) (page : Int) :
    Act Value → Session → Prop
  /-- The provider is called. -/
  | method (p : Nat) (s : Session) : PageCall set perPage page
      (Elasticsearch.paginate p set.toValue (optionalCount perPage) (.int page)) s
  /-- A search engine is called, with arguments in whatever way. -/
  | operation {id p : Nat} {c : Component} {P : Provider} {operation : Method}
      {positional : List Value} {keywords : Fields} {a : Arguments} {s : Session}
      (hoperation : ("paginate", operation) ∈ SearchEngine.operations)
      (hc : s.components[id]? = some c) (hbound : c.provider = some p)
      (hp : s.providers[p]? = some P) (hkind : P.kind = .elasticsearch)
      (hown : P.settings.get? "paginate" = none)
      (hkeywords : Fields.Distinct (keywords.erase contextKeyword))
      (hbind : operation.signature.bind positional (keywords.erase contextKeyword) = .ok a)
      (hnamed : a.named = [("predicates", set.toValue), ("per_page", optionalCount perPage),
        ("page", .int page)]) :
      PageCall set perPage page
        (callOperation .standard id "paginate" operation positional keywords) s

/-- The parameter of the size of a page. -/
def Elasticsearch.perPageParameter : Parameter :=
  { name := "per_page", type := .int, fallback := some defaultPageSize }

/-- The parameter of the number of a page. -/
def Elasticsearch.pageParameter : Parameter :=
  { name := "page", type := .int, fallback := some (.int 1) }

/-- The method of the provider for pages. -/
def Elasticsearch.paging : Method :=
  Elasticsearch.operation [predicatesParameter, perPageParameter, pageParameter] fun id a =>
    paginate id (a.get "predicates") (a.get "per_page") (a.get "page")

section

variable {operation : Method} {positional : List Value} {keywords : Fields} {a : Arguments}
  {set : PredicateSet} {perPage : Option Int} {page : Int}
  (hoperation : ("paginate", operation) ∈ SearchEngine.operations)
  (hbind : operation.signature.bind positional keywords = .ok a)
  (hnamed : a.named = [("predicates", set.toValue), ("per_page", optionalCount perPage),
    ("page", .int page)])
include hoperation hbind hnamed

/-- What the method receives: the arguments of the operation, and its own default for the size of a
page where that is null, as it is not sent then. -/
theorem received_paging :
    Elasticsearch.paging.signature.Needs a.sent ∧
      Elasticsearch.paging.signature.received a.sent =
        pure [("predicates", set.toValue), ("per_page", .int (perPage.getD 10)),
          ("page", .int page)] := by
  obtain ⟨-, -, hsig⟩ := SearchEngine.wellNamed hoperation
  have hsent : ∀ {name : String} {v : Value}, (name, v) ∈ a.named →
      a.sent.get? name = if v.isNull then none else some v := fun hmem =>
    Signature.get?_sent hsig hbind hmem
  have hfirst : ("predicates", set.toValue) ∈ a.named := by simp [hnamed]
  have hsecond : ("per_page", optionalCount perPage) ∈ a.named := by simp [hnamed]
  have hthird : ("page", Value.int page) ∈ a.named := by simp [hnamed]
  have hpredicates : a.sent.get? Elasticsearch.predicatesParameter.name = some set.toValue :=
    hsent hfirst
  have hperPage : a.sent.get? Elasticsearch.perPageParameter.name = perPage.map Value.int := by
    refine (hsent hsecond).trans ?_
    cases perPage <;> rfl
  have hpage : a.sent.get? Elasticsearch.pageParameter.name = some (.int page) := hsent hthird
  constructor
  · refine ⟨fun q hq hnone => ?_, Signature.get?_receiver_sent hsig hbind⟩
    rcases List.mem_cons.1 hq with rfl | hq
    · cases hpredicates.symm.trans hnone
    · rcases List.mem_cons.1 hq with rfl | hq
      · rfl
      · obtain rfl := List.mem_singleton.1 hq
        rfl
  · have hset : Elasticsearch.predicatesParameter.received a.sent = pure set.toValue := by
      rw [Parameter.received, hpredicates]
      rfl
    have hsize : Elasticsearch.perPageParameter.received a.sent =
        pure (.int (perPage.getD 10)) := by
      rw [Parameter.received, hperPage]
      cases perPage <;> rfl
    have hnumber : Elasticsearch.pageParameter.received a.sent = pure (.int page) := by
      rw [Parameter.received, hpage]
      rfl
    have hparameters : Elasticsearch.paging.signature.parameters =
        [Elasticsearch.predicatesParameter, Elasticsearch.perPageParameter,
          Elasticsearch.pageParameter] := rfl
    rw [Signature.received, hparameters, List.mapM_cons, List.mapM_cons, List.mapM_cons, hset,
      hsize, hnumber]
    rfl

theorem callConverted_paging (hkeywords : keywords.Distinct) (p : Nat) :
    Elasticsearch.paging.callConverted p (Entries.ofFields a.sent) =
      Elasticsearch.paginate p set.toValue (.int (perPage.getD 10)) (.int page) := by
  obtain ⟨-, -, hsig⟩ := SearchEngine.wellNamed hoperation
  obtain ⟨m, hm, himplements⟩ := SearchEngine.implemented hoperation
  obtain rfl : Elasticsearch.paging = m := Member.method.inj (Option.some.inj hm)
  obtain ⟨hneeds, hreceived⟩ := received_paging hoperation hbind hnamed
  rw [Method.callConverted_ofFields (himplements.names ▸ hsig.distinct) himplements.further
    (Signature.distinct_sent hsig hkeywords hbind) hneeds, hreceived, pure_bind]
  rfl

end

/-- Every body that a call for a page gives to the outside asks for the window of the page, and a
call that goes well gives one at least. -/
theorem PageCall.sends {set : PredicateSet} {perPage : Option Int} {page : Int} {act : Act Value}
    (hset : set.LeavesWindow) (h : PageCall set perPage page act s) :
    s.Sends (AsksForPage perPage page) (act.outcome s) := by
  cases h with
  | method p => exact sends_paginate hset p perPage page s
  | @operation id p c P operation positional keywords a _ hoperation hc hbound hp hkind hown
      hkeywords hbind hnamed =>
    have hsize : AsksForPage (some (perPage.getD 10)) page = AsksForPage perPage page := by
      cases perPage <;> rfl
    have hcarried : s.Sends (AsksForPage perPage page)
        ((readying p (keywords.getD contextKeyword) >>= fun _ =>
          Elasticsearch.paginate p set.toValue (.int (perPage.getD 10)) (.int page)).outcome s) := by
      refine .bind_keeps (keeps_readying preparing_outward p _) fun _ s₁ _ => ?_
      rw [← hsize]
      exact sends_paginate hset p (some (perPage.getD 10)) page s₁
    rw [SearchEngine.outcome_callOperation_of_called hoperation hc hbound hp hkind hown (by decide)
      rfl hkeywords hbind (callConverted_paging hoperation hbind hnamed hkeywords p)]
    rcases hends : (readying p (keywords.getD contextKeyword) >>= fun _ =>
      Elasticsearch.paginate p set.toValue (.int (perPage.getD 10)) (.int page)).outcome s with
      ⟨fault | answer, s'⟩
    · rw [hends] at hcarried
      exact hcarried.told fault.told
    · rw [hends] at hcarried
      have hpresented : Keeps Session.outward
          (do return (← component id).present answer : Act Value) :=
        .bind (keeps_component id) fun _ => .pure _
      exact hcarried.followed (hpresented s')

/-! ### All pages -/

theorem mem_window_iff {size : Int} (hsize : 0 < size) (page hit : Int) :
    hit ∈ Set.Ico ((page - 1) * size) ((page - 1) * size + size) ↔ hit / size = page - 1 := by
  rw [Set.mem_Ico, Int.ediv_eq_iff_of_pos hsize]

/-- **Pages tile the hits.**  A page size is given that is not negative, or none; ten hits stand for
none and for zero.  A predicate set asks for no distinct values, and its options name no window of
their own; its limit, its offset and everything else may be what they are.  Then every body that a
call for a page gives to the outside asks for a positive number of hits, as many as a page has, and
skips those of the pages before; and a call that goes well gives one at least.  So however the pages
up to some number have been called for, in whatever states, the windows of two of them share no hit,
each begins where the one before it ends, and together they are the hits from the first one on, as
many as the pages have. -/
theorem Elasticsearch.pages_tile {set : PredicateSet} {perPage : Option Int}
    (hset : set.LeavesWindow) (hperPage : ∀ size, perPage = some size → 0 ≤ size) :
    let size := pageSize perPage
    0 < size ∧
    (∀ page act s, PageCall set perPage page act s →
      (∀ body ∈ act.sent s, ∃ es : Entries, body = .dict es ∧
        es.Spans ((page - 1) * size) size) ∧
      ∀ answer s', act.outcome s = (.ok answer, s') → act.sent s ≠ []) ∧
    ∀ (n : Int) (bodies : Int → Entries),
      (∀ page, 1 ≤ page → page ≤ n →
        ∃ act s, PageCall set perPage page act s ∧ .dict (bodies page) ∈ act.sent s) →
      (∀ i j, 1 ≤ i → i ≤ n → 1 ≤ j → j ≤ n → i ≠ j →
        Disjoint (bodies i).hits (bodies j).hits) ∧
      (∀ i, 1 ≤ i → i < n → ∃ start,
        (bodies i).Spans start size ∧ (bodies (i + 1)).Spans (start + size) size) ∧
      ⋃ page ∈ Set.Icc 1 n, (bodies page).hits = Set.Ico 0 (n * size) := by
  intro size
  have hpositive : 0 < size := pageSize_pos hperPage
  refine ⟨hpositive, fun page act s hcall => (hcall.sends hset).sent, fun n bodies hbodies => ?_⟩
  have hspans : ∀ page, 1 ≤ page → page ≤ n →
      (bodies page).Spans ((page - 1) * size) size := by
    intro page hfirst hlast
    obtain ⟨act, s, hcall, hsent⟩ := hbodies page hfirst hlast
    obtain ⟨es, hes, hspans⟩ := (hcall.sends hset).sent.1 _ hsent
    rw [Value.dict.inj hes]
    exact hspans
  -- a hit tells the page that it is on, which makes the pages disjoint and leaves none of them out
  have hhits : ∀ page, 1 ≤ page → page ≤ n → ∀ hit,
      hit ∈ (bodies page).hits ↔ hit / size = page - 1 := by
    intro page hfirst hlast hit
    rw [Entries.hits_of_spans (hspans page hfirst hlast), mem_window_iff hpositive]
  refine ⟨fun i j hi hi' hj hj' hne => ?_, fun i hi hi' => ?_, ?_⟩
  · rw [Set.disjoint_left]
    intro hit hhit hhit'
    rw [hhits i hi hi'] at hhit
    rw [hhits j hj hj'] at hhit'
    omega
  · refine ⟨_, hspans i hi hi'.le, ?_⟩
    have hnext : (i - 1) * size + size = (i + 1 - 1) * size := by ring
    rw [hnext]
    exact hspans (i + 1) (by omega) (by omega)
  · ext hit
    have hlower : 0 ≤ hit ↔ 0 ≤ hit / size := (Int.ediv_nonneg_iff_of_pos hpositive).symm
    have hupper : hit < n * size ↔ hit / size < n := (Int.ediv_lt_iff_lt_mul hpositive).symm
    rw [Set.mem_Ico, hlower, hupper]
    simp only [Set.mem_iUnion, Set.mem_Icc]
    constructor
    · rintro ⟨page, ⟨hfirst, hlast⟩, hhit⟩
      rw [hhits page hfirst hlast] at hhit
      omega
    · rintro ⟨hfirst, hlast⟩
      refine ⟨hit / size + 1, ⟨by omega, by omega⟩, ?_⟩
      rw [hhits _ (by omega) (by omega)]
      omega

/-- The first two pages of all posts, their size left to its default. -/
theorem Elasticsearch.pages_tile_two :
    let set : PredicateSet := { source := .source "posts", limit := .int 5, offset := .int 7 }
    let call := fun page : Int => callOperation .standard 0 "paginate" SearchEngine.paging
      [set.toValue, .null, .int page] []
    let first : Entries := [(.str "_source", .bool true), (.str "size", .int 10)]
    let second : Entries := first ++ [(.str "from", .int 10)]
    let bodies := fun page : Int => if page = 1 then first else second
    set.LeavesWindow ∧
    (call 1).sent .ofPosts = [.dict first] ∧ (call 2).sent .ofPosts = [.dict second] ∧
    Disjoint first.hits second.hits ∧
    ⋃ page ∈ Set.Icc (1 : Int) 2, (bodies page).hits = Set.Ico 0 20 := by
  intro set call first second bodies
  have hset : set.LeavesWindow := ⟨rfl, rfl, rfl⟩
  have hcall : ∀ page, PageCall set none page (call page) .ofPosts := fun page =>
    .operation (P := {
        kind := .elasticsearch, connection := some .host, ready := true, owner := some 0 })
      (List.mem_of_getElem? (i := 3) rfl) rfl rfl rfl rfl rfl List.Pairwise.nil rfl rfl
  have hfirst : (call 1).sent .ofPosts = [.dict first] := rfl
  have hsecond : (call 2).sent .ofPosts = [.dict second] := rfl
  have hnone : ∀ size : Int, none = some size → 0 ≤ size := nofun
  obtain ⟨-, -, htile⟩ := Elasticsearch.pages_tile hset hnone
  obtain ⟨hdisjoint, -, hcover⟩ := htile 2 bodies fun page hlower hupper => by
    obtain rfl | rfl : page = 1 ∨ page = 2 := by omega
    · exact ⟨_, _, hcall 1, hfirst ▸ List.mem_singleton_self _⟩
    · exact ⟨_, _, hcall 2, hsecond ▸ List.mem_singleton_self _⟩
  exact ⟨hset, hfirst, hsecond,
    hdisjoint 1 2 (by decide) (by decide) (by decide) (by decide) (by decide), hcover⟩

end SearchKit
