import SearchKit.Proofs.Engine.Defaults

/-!
# Components that share a provider

A provider keeps one component, the one that has been bound to it last, and asks that one for its
collection, whichever component it carries out an operation for.  So the collection that an
operation falls back on is decided by the history of bindings, and not by the component that is
called.

* `Session.Shared` : components are bound to a provider, and calls are made in between.
* `Session.Shares` : where the provider stands then, kept by every step
  (`Session.Shares.after_bound`, `Session.Shares.after_call`) and so by all of them
  (`Session.Shared.shares`).
* `Elasticsearch.callOperation_of_shared` : **whose collection an operation falls back on**.
* `Elasticsearch.flush_of_shared_deletes_other_collection` : a component deletes the documents of
  another one.
-/

namespace SearchKit

open Act

variable {s s' s₁ : Session} {p id : Nat} {P : Provider} {c : Component}

/-! ### Binding -/

theorem eq_of_component_ok (h : (component id).outcome s = (.ok c, s')) :
    s' = s ∧ s.components[id]? = some c := by
  rw [component, outcome_bind_ok (outcome_get s)] at h
  cases hc : s.components[id]? with
  | none => rw [hc] at h; cases h
  | some c' => rw [hc] at h; cases h; exact ⟨rfl, rfl⟩

theorem bindTo_ok (h : (bindTo id p).outcome s = (.ok (), s')) :
    ∃ P c, s.providers[p]? = some P ∧ s.components[id]? = some c ∧ s' = { s with
      providers := s.providers.set p { P with
        owner := some id, settings := P.settings.erase ownerName }
      components := s.components.set id { c with provider := some p } } := by
  obtain ⟨P, s₁, hP, hrest⟩ := eq_ok_of_bind h
  obtain ⟨rfl, hp⟩ := eq_of_provider_ok hP
  obtain ⟨⟨⟩, s₂, hput, hrest⟩ := eq_ok_of_bind hrest
  cases hput
  obtain ⟨c, s₃, hfound, hrest⟩ := eq_ok_of_bind hrest
  obtain ⟨rfl, hc⟩ := eq_of_component_ok hfound
  cases hrest
  exact ⟨P, c, hp, hc, rfl⟩

/-! ### Shared providers -/

/-- What happens to a provider for Elasticsearch that components share: further components are bound
to it, given or made for it, and calls are made of it and of the components that are bound to it.
The last of the components that have been bound is kept along. -/
inductive Session.Shared (p : Nat) (s : Session) : Option Nat → Session → Prop
  /-- Nothing has happened. -/
  | start : Shared p s none s
  /-- A component has been bound to the provider. -/
  | bound {last : Option Nat} {id : Nat} {s₁ s₂ : Session} (hrun : Shared p s last s₁)
      (hbound : (bindTo id p).outcome s₁ = (.ok (), s₂)) : Shared p s (some id) s₂
  /-- A search engine has been made for the provider. -/
  | made {last : Option Nat} {keywords : Fields} {id : Nat} {s₁ s₂ : Session}
      (hrun : Shared p s last s₁)
      (hmade : (newComponentWith .searchEngine keywords p).outcome s₁ = (.ok id, s₂)) :
      Shared p s (some id) s₂
  /-- A call has been made, and has ended well or not. -/
  | called {last : Option Nat} {call : EngineCall} {s₁ : Session} (hrun : Shared p s last s₁)
      (hcall : call.Proper p s₁.components) : Shared p s last ((call.act p).outcome s₁).2

/-- Where a shared provider stands: in a life cycle of its connections, configured as it was, and
owned by the component that has been bound last, if any has.  The components there were are still
there, each with its own collection. -/
structure Session.Shares (p : Nat) (P : Provider) (cs : List Component) (last : Option Nat)
    (s : Session) (P' : Provider) (l : Lifecycle) : Prop where
  /-- The provider is in a life cycle. -/
  tracks : l.Tracks p P' s.components s
  /-- It is of the same class. -/
  kind : P'.kind = P.kind
  /-- It is configured alike, apart from a component that has been assigned to it. -/
  settings : ∀ name, name ≠ ownerName → P'.settings.get? name = P.settings.get? name
  /-- It is owned by the last component. -/
  owner : ∀ id, last = some id → P'.owner = some id ∧ ∃ c, s.components[id]? = some c
  /-- The components are configured as they were. -/
  components : ∀ (id : Nat) (c : Component), cs[id]? = some c →
    ∃ c', s.components[id]? = some c' ∧ c'.settings = c.settings

namespace Session.Shares

variable {cs : List Component} {last : Option Nat} {P' : Provider} {l : Lifecycle}

/-- A call leaves the owner and the components as they are. -/
theorem after_call (h : Shares p P cs last s P' l) (hkind : P.kind = .elasticsearch)
    {call : EngineCall} (hcall : call.Proper p s.components) :
    ∃ l', Shares p P cs last ((call.act p).outcome s).2 P' l' := by
  obtain ⟨events, l', -, -, htracks, -⟩ :=
    EngineCall.obeys (h.kind.trans hkind) hcall s h.tracks
  have hsame := htracks.components
  refine ⟨l', ⟨?_, h.kind, h.settings, ?_, ?_⟩⟩
  · rw [hsame]
    exact htracks
  · rw [hsame]
    exact h.owner
  · rw [hsame]
    exact h.components

/-- Binding a component makes it the owner. -/
theorem after_bound (h : Shares p P cs last s P' l)
    (hbound : (bindTo id p).outcome s = (.ok (), s')) :
    ∃ P'', Shares p P cs (some id) s' P'' l := by
  obtain ⟨P₁, c, hp₁, hc, rfl⟩ := bindTo_ok hbound
  obtain rfl : P'.holding l.held = P₁ := Option.some.inj (h.tracks.provider.symm.trans hp₁)
  obtain ⟨hlt, -⟩ := List.getElem?_eq_some_iff.1 hp₁
  obtain ⟨hid, -⟩ := List.getElem?_eq_some_iff.1 hc
  refine ⟨{ P' with owner := some id, settings := P'.settings.erase ownerName },
    ⟨?_, rfl, h.tracks.clients, h.tracks.constructions, h.tracks.closings, h.tracks.replies,
      h.tracks.sound⟩, h.kind, fun name hname => ?_, fun id' hlast => ?_, fun id' c' hc' => ?_⟩
  · exact List.getElem?_set_self hlt
  · exact (Fields.get?_erase hname _).trans (h.settings name hname)
  · cases hlast
    exact ⟨rfl, _, List.getElem?_set_self hid⟩
  · obtain ⟨c₁, hc₁, hsettings⟩ := h.components id' c' hc'
    by_cases hsame : id' = id
    · subst hsame
      obtain rfl : c = c₁ := Option.some.inj (hc.symm.trans hc₁)
      exact ⟨_, List.getElem?_set_self hid, hsettings⟩
    · exact ⟨c₁, (List.getElem?_set_ne (Ne.symm hsame)).trans hc₁, hsettings⟩

theorem after_made (h : Shares p P cs last s P' l) (c : Component) :
    Shares p P cs last { s with components := s.components ++ [c] } P' l := by
  have hthere : ∀ {id : Nat} {c' : Component}, s.components[id]? = some c' →
      (s.components ++ [c])[id]? = some c' := fun hc' =>
    (List.getElem?_append_left (List.getElem?_eq_some_iff.1 hc').1).trans hc'
  refine ⟨⟨h.tracks.provider, rfl, h.tracks.clients, h.tracks.constructions, h.tracks.closings,
    h.tracks.replies, h.tracks.sound⟩, h.kind, h.settings, fun id' hlast => ?_,
    fun id' c' hc' => ?_⟩
  · obtain ⟨howner, c', hc'⟩ := h.owner id' hlast
    exact ⟨howner, c', hthere hc'⟩
  · obtain ⟨c₁, hc₁, hsettings⟩ := h.components id' c' hc'
    exact ⟨c₁, hthere hc₁, hsettings⟩

end Session.Shares

/-- However a provider is shared, it stands where a shared provider does. -/
theorem Session.Shared.shares {last : Option Nat} (hp : s.providers[p]? = some P)
    (hkind : P.kind = .elasticsearch) (hready : P.ready = P.connection.isSome)
    (hknown : ∀ n, P.connection = some (.client n) → n < s.clients) (hrun : s.Shared p last s') :
    ∃ P' l, Shares p P s.components last s' P' l := by
  induction hrun with
  | start =>
    exact ⟨P, _, Session.tracks_lifecycle hp hready hknown, rfl, fun _ _ => rfl, nofun,
      fun _ c hc => ⟨c, hc, rfl⟩⟩
  | bound _ hbound ih =>
    obtain ⟨P₁, l, h⟩ := ih
    obtain ⟨P₂, h₂⟩ := h.after_bound hbound
    exact ⟨P₂, l, h₂⟩
  | made _ hmade ih =>
    obtain ⟨P₁, l, h⟩ := ih
    obtain ⟨⟨id, given⟩, s₁, hadded, hrest⟩ := eq_ok_of_bind hmade
    obtain ⟨⟨⟩, s₂, hbound, hrest⟩ := eq_ok_of_bind hrest
    cases hrest
    obtain ⟨a, s₃, ha, hadded⟩ := eq_ok_of_bind hadded
    obtain ⟨-, rfl⟩ := Prod.mk.inj ha
    cases hadded
    obtain ⟨P₂, h₂⟩ := (h.after_made _).after_bound hbound
    exact ⟨P₂, l, h₂⟩
  | called _ hcall ih =>
    obtain ⟨P₁, l, h⟩ := ih
    obtain ⟨l', h'⟩ := h.after_call hkind hcall
    exact ⟨P₁, l', h'⟩

/-! ### The default of a component -/

/-- Where a shared provider has no index of its own, and neither the call nor its source names a
collection, that of the component is chosen that has been bound last. -/
theorem Session.Shares.chosen_of_missing {cs : List Component} {b : Nat} {P' : Provider}
    {l : Lifecycle} {named source own : Value} (h : Shares p P cs (some b) s P' l)
    (hindex : (P.settings.getD "index").truthy = false) (hmissing : named.truthy = false)
    (hsource : s.collectionOf? source = some own) (hempty : own.truthy = false) :
    ∃ cb, s.components[b]? = some cb ∧
      s.chosen? (P'.holding l.held) named source = some (cb.settings.getD "collection") := by
  obtain ⟨howner, cb, hcb⟩ := h.owner b rfl
  have hindex' : ((P'.holding l.held).settings.getD "index").truthy = false := by
    have hsame : P'.settings.get? "index" = P.settings.get? "index" :=
      h.settings "index" (by decide)
    rw [Provider.holding, Fields.getD, hsame]
    exact hindex
  have hfound : ((P'.holding l.held).owner.bind fun id => s.components[id]?) = some cb :=
    (congrArg (Option.bind · _) howner).trans hcb
  have howned : s.ownersCollection (P'.holding l.held) = cb.settings.getD "collection" := by
    rw [ownersCollection, hfound]
  have hconfigured : s.configured (P'.holding l.held) = cb.settings.getD "collection" := by
    rw [configured, Elasticsearch.orElse, if_neg (by simp [hindex']), howned]
  refine ⟨cb, hcb, ?_⟩
  rw [chosen?, if_neg (by simp [hmissing]), hsource, Option.map_some, Elasticsearch.orElse,
    if_neg (by simp [hempty]), hconfigured]

/-- **Whose collection an operation falls back on.**  A provider for Elasticsearch with its own
methods and without an index counts its connection as open exactly when it holds one.  Components
are bound to it or made for it, and calls are made of it and of the components in between, in any
order.  Then every component still has the collection that it had.  But an operation of one of them
that names no collection, neither itself nor by its source, goes to the collection of the component
that was bound last, or is refused where that is missing.  It is the component's own only when this
is the component. -/
theorem Elasticsearch.callOperation_of_shared {b : Nat} {own : Value} {q : AddressedCall}
    {operation : Method} {positional : List Value} {keywords : Fields} {a : Arguments}
    (hp : s.providers[p]? = some P) (hkind : P.kind = .elasticsearch)
    (hready : P.ready = P.connection.isSome)
    (hknown : ∀ n, P.connection = some (.client n) → n < s.clients) (hown : P.AddressesByItself)
    (hindex : (P.settings.getD "index").truthy = false) (hrun : s.Shared p (some b) s')
    (hoperation : (q.name, operation) ∈ SearchEngine.operations)
    (hc : s'.components[id]? = some c) (hbound : c.provider = some p)
    (hkeywords : Fields.Distinct (keywords.erase contextKeyword))
    (hbind : operation.signature.bind positional (keywords.erase contextKeyword) = .ok a)
    (hnamed : a.named = q.arguments) (hbare : ∀ v ∈ q.ids, recordOf? s' v = none)
    (hmissing : q.named.truthy = false) (hsource : s'.collectionOf? q.source = some own)
    (hempty : own.truthy = false) :
    let ends := (callOperation .standard id q.name operation positional keywords).outcome s'
    (∀ (id' : Nat) (c₀ : Component), s.components[id']? = some c₀ →
      ∃ c', s'.components[id']? = some c' ∧ c'.settings = c₀.settings) ∧
    ∃ cb, s'.components[b]? = some cb ∧
      s'.AskedOnce (fun r => q.Takes (cb.settings.getD "collection") ∧
        r.SentFor (cb.settings.getD "collection") q.callback) q.Silent ends ∧
      (q.Refuses (cb.settings.getD "collection") → ∀ s₁,
        (readying p (keywords.getD contextKeyword)).outcome s' = (.ok (), s₁) →
        ∃ reason, ends = (.error (.badRequest reason), s₁)) := by
  obtain ⟨P', l, h⟩ := hrun.shares hp hkind hready hknown
  obtain ⟨cb, hcb, hchosen⟩ := h.chosen_of_missing hindex hmissing hsource hempty
  have hown' : (P'.holding l.held).AddressesByItself := hown.of_settings h.settings
  refine ⟨h.components, cb, hcb, ?_, fun hrefuses s₁ hs₁ => ?_⟩
  · refine (AddressedCall.askedOnce_callOperation hoperation hc hbound h.tracks.provider
      (h.kind.trans hkind) hown' hkeywords hbind hnamed hbare).weaken (fun r hr => ?_)
      fun hsilent => hsilent
    obtain ⟨chosen, hsome, htakes, hr⟩ := hr
    obtain rfl := Option.some.inj (hchosen.symm.trans hsome)
    exact ⟨htakes, hr⟩
  · exact (AddressedCall.refused_callOperation hoperation hc hbound h.tracks.provider
      (h.kind.trans hkind) hown' hkeywords hbind hnamed hbare hchosen hrefuses).1 s₁ hs₁

/-- A provider for Elasticsearch that no component has been bound to yet. -/
def Session.ofUnbound : Session where
  providers := [{ kind := .elasticsearch, connection := some .host, ready := true }]

/-- A session after a search engine has been made for its provider, with a collection. -/
def Session.withEngine (s : Session) (collection : String) : Session :=
  ((newComponentWith .searchEngine [("collection", .str collection)] 0).outcome s).2

/-- A search engine for posts and one for users are made for a provider. -/
def Session.ofEngines : Session := (Session.ofUnbound.withEngine "posts").withEngine "users"

/-- When the one for posts has been bound to the provider again, it deletes all posts. -/
theorem Elasticsearch.callOperation_of_shared_bound_again :
    let s := ((bindTo 0 0).outcome .ofEngines).2
    s.AskedOnce (Request.Addresses (.str "posts")) False
      ((callOperation .standard 0 "flush" SearchEngine.flushing [] []).outcome s) := by
  let P : Provider := { kind := .elasticsearch, connection := some .host, ready := true }
  let q : AddressedCall := .flush .null none
  intro s
  have hposts : (newComponentWith .searchEngine [("collection", .str "posts")] 0).outcome
      .ofUnbound = (.ok 0, Session.ofUnbound.withEngine "posts") := rfl
  have husers : (newComponentWith .searchEngine [("collection", .str "users")] 0).outcome
      (Session.ofUnbound.withEngine "posts") = (.ok 1, .ofEngines) := rfl
  have hagain : (bindTo 0 0).outcome .ofEngines = (.ok (), s) := rfl
  have hp : Session.ofUnbound.providers[0]? = some P := rfl
  have hown : P.AddressesByItself := fun _ _ => rfl
  have hoperation : (q.name, SearchEngine.flushing) ∈ SearchEngine.operations :=
    List.mem_of_getElem? (i := 10) rfl
  have hc : s.components[0]? = some {
      kind := .searchEngine, type := .str ComponentKind.searchEngine.moduleName
      settings := [("collection", .str "posts")], provider := some 0 } := rfl
  have hkeywords : Fields.Distinct (Fields.erase contextKeyword []) := List.Pairwise.nil
  have hbind : SearchEngine.flushing.signature.bind [] (Fields.erase contextKeyword []) =
      .ok ⟨q.arguments, []⟩ := rfl
  obtain ⟨-, cb, hcb, hasked, -⟩ := Elasticsearch.callOperation_of_shared hp rfl rfl nofun hown rfl
    (.bound (.made (.made .start hposts) husers) hagain) hoperation hc rfl hkeywords hbind rfl nofun
    rfl rfl rfl
  obtain rfl := Option.some.inj (hc.symm.trans hcb)
  refine hasked.weaken (fun r hr => ?_) fun hsilent => hsilent rfl
  exact hr.2.resolve_right fun hcallback => hcallback.1 rfl

/-- The search engine for posts deletes all posts, until another one is made for its provider.  Then
it still has the same collection, and deletes all users. -/
theorem Elasticsearch.flush_of_shared_deletes_other_collection :
    let collection? := fun s : Session => s.components[0]?.map fun c => c.settings.getD "collection"
    let requests := fun s : Session =>
      ((callOperation .standard 0 "flush" SearchEngine.flushing [] []).outcome s).2.requests
    collection? (Session.ofUnbound.withEngine "posts") = some (.str "posts") ∧
    requests (Session.ofUnbound.withEngine "posts") =
      [(.host, .deleteByQuery (.str "posts") matchAll)] ∧
    collection? .ofEngines = some (.str "posts") ∧
    requests .ofEngines = [(.host, .deleteByQuery (.str "users") matchAll)] :=
  ⟨rfl, rfl, rfl, rfl⟩

end SearchKit
