import SearchKit.Proofs.Engine.Closing
import SearchKit.Proofs.Write.Deleting

/-!
# The collection that is chosen

An operation that needs one collection takes the one that it is given, else that of its source, else
the configured one: the provider's own index, else the collection of the component that was bound to
the provider last.  What is chosen can still be missing, and then the operation is refused before
anything is asked of the backend.

* `PredicateSet.ofValue?_toValue` : a predicate set is read back from its data.
* `Session.chosen?` : the choice, and `outcome_collectionName` that the provider makes it.
* `Session.naming` : what the choice depends on; it stays while a connection is found or built
  (`connection_ok`).
-/

namespace SearchKit

open Act
open Elasticsearch (orElse)

variable {s s' : Session} {p : Nat} {P P' : Provider}

/-! ### Predicate sets as data -/

theorem PredicateSet.listsOf?_map (lists : Assoc (List Value)) :
    listsOf? (lists.map fun e => (e.1, .list e.2)) = some lists := by
  rw [listsOf?, List.mapM_map]
  induction lists with
  | nil => rfl
  | cons e lists ih =>
    rw [List.mapM_cons, ih]
    rfl

theorem SortDirection.ofName?_name (d : SortDirection) : ofName? d.name = some d := by
  cases d <;> simp [ofName?, name]

/-- A predicate set is read back from its data. -/
theorem PredicateSet.ofValue?_toValue (set : PredicateSet) : ofValue? set.toValue = some set := by
  obtain ⟨query, wheres, whereIns, whereNotIns, ranges, orders, limit, offset, distinctField, index,
    options, callback, source⟩ := set
  have hranges : (ranges.map fun e => (e.1, e.2.toValue)).mapM
      (fun e => (RangeBound.ofValue? e.2).map fun b => (e.1, b)) = some ranges := by
    rw [List.mapM_map]
    induction ranges with
    | nil => rfl
    | cons e ranges ih =>
      rw [List.mapM_cons, ih]
      rfl
  have horders : (orders.map SortOrder.toValue).mapM SortOrder.ofValue? = some orders := by
    rw [List.mapM_map]
    induction orders with
    | nil => rfl
    | cons o orders ih =>
      have horder : SortOrder.ofValue? o.toValue = some o := by
        rw [SortOrder.toValue, SortOrder.ofValue?, SortDirection.ofName?_name]
        rfl
      rw [List.mapM_cons, ih, Function.comp_apply, horder]
      rfl
  rw [toValue, ofValue?]
  simp only [listsOf?_map, hranges, horders]
  rfl

theorem predicates_toValue (set : PredicateSet) :
    Elasticsearch.predicates set.toValue = pure set := by
  rw [Elasticsearch.predicates, PredicateSet.ofValue?_toValue]

/-! ### The choice of a collection -/

/-- The collection of the component that was bound to a provider last. -/
def Session.ownersCollection (s : Session) (P : Provider) : Value :=
  match P.owner.bind fun id => s.components[id]?, P.settings.get? ownerName with
  | some c, _ => c.settings.getD "collection"
  | none, some (.model _ fields) => Fields.getD "collection" fields
  | none, _ => .null

/-- The configured collection: the provider's own index, else the collection of its component. -/
def Session.configured (s : Session) (P : Provider) : Value :=
  orElse (P.settings.getD "index") (s.ownersCollection P)

/-- The collection of a source or a record, null without one. -/
def Session.collectionOf? (s : Session) (source : Value) : Option Value :=
  if source.isNull then some .null
  else match source with
    | .keyed .. => some (.str "partial")
    | v => match sourceOf? s v, recordOf? s v with
      | some (_, found), _ => some found.collection
      | none, some (_, r) => some r.collection
      | none, none => none

/-- The collection that is chosen for an operation, missing or not; none for a source that is no
source. -/
def Session.chosen? (s : Session) (P : Provider) (named source : Value) : Option Value :=
  if named.truthy then some named
  else (s.collectionOf? source).map fun own => orElse own (s.configured P)

theorem outcome_ownerCollection (P : Provider) (s : Session) :
    (Elasticsearch.ownerCollection P).outcome s = (.ok (s.ownersCollection P), s) := by
  unfold Elasticsearch.ownerCollection Session.ownersCollection
  rw [outcome_bind_ok (outcome_get s), ownerName]
  generalize (P.owner.bind fun id => s.components[id]?) = bound
  generalize P.settings.get? "__component__" = assigned
  rcases bound with _ | c
  · rcases assigned with _ | v
    · rfl
    · cases v <;> rfl
  · rfl

theorem outcome_defaultCollection (hp : s.providers[p]? = some P)
    (hown : P.settings.get? "_get_default_collection" = none) :
    (Elasticsearch.defaultCollection p).outcome s = (.ok (s.configured P), s) := by
  rw [Elasticsearch.defaultCollection, outcome_bind_ok (requireOwn_outcome hp hown),
    outcome_bind_ok (provider_outcome hp), outcome_bind_ok (outcome_ownerCollection P s)]
  rfl

theorem outcome_collectionOf (source : Value) (hsource : source.isNull = false) (s : Session) :
    (Elasticsearch.collectionOf source).outcome s =
      (match s.collectionOf? source with
        | some own => .ok own
        | none => .error .noPart, s) := by
  unfold Elasticsearch.collectionOf Session.collectionOf?
  rw [hsource, if_neg nofun]
  split
  · rfl
  · rw [outcome_bind_ok (outcome_get s)]
    split <;> simp_all

theorem outcome_checkedName (name : Value) (s : Session) :
    (if name.truthy then return name else throw (.badRequest .noCollection) : Act Value).outcome s =
      (if name.truthy then .ok name else .error (.badRequest .noCollection), s) := by
  split <;> rfl

/-- Where nothing hides them, the steps of the choice end as the choice does: a missing collection
is refused. -/
theorem outcome_collectionName (hp : s.providers[p]? = some P)
    (hown : P.settings.get? "_get_collection_name" = none)
    (hdefault : P.settings.get? "_get_default_collection" = none) (named source : Value) :
    (Elasticsearch.collectionName p named source).outcome s =
      (match s.chosen? P named source with
        | some name => if name.truthy then .ok name else .error (.badRequest .noCollection)
        | none => .error .noPart, s) := by
  have hconfigured : ∀ own : Value, (do
      let name ← if own.truthy then pure own else Elasticsearch.defaultCollection p
      if name.truthy then return name
        else throw (.badRequest .noCollection) : Act Value).outcome s =
      (if (orElse own (s.configured P)).truthy then .ok (orElse own (s.configured P))
        else .error (.badRequest .noCollection), s) := by
    intro own
    dsimp only
    by_cases hown : own.truthy = true
    · have hchosen : orElse own (s.configured P) = own := if_pos hown
      rw [if_pos hown, pure_bind, hchosen, outcome_checkedName]
    · have hchosen : orElse own (s.configured P) = s.configured P := if_neg hown
      rw [if_neg hown, outcome_bind_ok (outcome_defaultCollection hp hdefault), hchosen,
        outcome_checkedName]
  rw [Elasticsearch.collectionName, outcome_bind_ok (requireOwn_outcome hp hown), Session.chosen?]
  dsimp only
  by_cases hnamed : named.truthy = true
  · rw [if_pos hnamed, if_pos hnamed]
    exact outcome_checkedName named s
  · rw [if_neg hnamed, if_neg hnamed]
    by_cases hnull : source.isNull = true
    · have hnone : s.collectionOf? source = some .null := by
        unfold Session.collectionOf?
        rw [if_pos hnull]
      rw [if_pos hnull, hnone]
      exact hconfigured .null
    · rw [if_neg hnull]
      have hsource := outcome_collectionOf source (by simpa using hnull) s
      cases hfound : s.collectionOf? source with
      | none =>
        rw [hfound] at hsource
        exact outcome_bind_error hsource _
      | some own =>
        rw [hfound] at hsource
        exact (outcome_bind_ok hsource _).trans (hconfigured own)

section

variable {named source name : Value} (hp : s.providers[p]? = some P)
  (hown : P.settings.get? "_get_collection_name" = none)
  (hdefault : P.settings.get? "_get_default_collection" = none)
include hp hown hdefault

theorem collectionName_ok
    (h : (Elasticsearch.collectionName p named source).outcome s = (.ok name, s')) :
    s' = s ∧ s.chosen? P named source = some name ∧ name.truthy = true := by
  rw [outcome_collectionName hp hown hdefault] at h
  obtain ⟨hends, rfl⟩ := Prod.mk.inj h
  refine ⟨rfl, ?_⟩
  cases hchosen : s.chosen? P named source with
  | none =>
    rw [hchosen] at hends
    cases hends
  | some chosen =>
    rw [hchosen] at hends
    dsimp only at hends
    split at hends
    · rename_i htruthy
      cases hends
      exact ⟨rfl, htruthy⟩
    · cases hends

theorem outcome_collectionName_of_missing (hchosen : s.chosen? P named source = some name)
    (hmissing : name.truthy = false) :
    (Elasticsearch.collectionName p named source).outcome s =
      (.error (.badRequest .noCollection), s) := by
  rw [outcome_collectionName hp hown hdefault, hchosen]
  dsimp only
  rw [hmissing]
  rfl

end

/-! ### What the choice depends on -/

/-- What the choice of a collection depends on: the records and sources, the components, and of the
provider its configuration and the component that was bound to it last. -/
def Session.naming (p : Nat) (s : Session) :=
  (s.records, s.sources, s.components, s.providers[p]?.map fun P => (P.settings, P.owner))

theorem apart_naming (p : Nat) : ApartFromReading (Session.naming p) :=
  ⟨fun _ _ _ _ => rfl, fun _ _ => rfl⟩

theorem apart_backend_naming (p : Nat) : ApartFromBackend (Session.naming p) :=
  fun _ _ _ _ _ _ => rfl

theorem Session.provider_of_naming (h : s'.naming p = s.naming p) (hp : s.providers[p]? = some P) :
    ∃ P', s'.providers[p]? = some P' ∧ P'.settings = P.settings ∧ P'.owner = P.owner := by
  have hprovider : s'.providers[p]?.map (fun P => (P.settings, P.owner)) =
      some (P.settings, P.owner) := by
    rw [(Prod.mk.inj (Prod.mk.inj (Prod.mk.inj h).2).2).2, hp]
    rfl
  obtain ⟨P', hP', hsame⟩ := Option.map_eq_some_iff.1 hprovider
  exact ⟨P', hP', Prod.mk.inj hsame⟩

theorem Session.recordOf?_of_naming (h : s'.naming p = s.naming p) :
    recordOf? s' = recordOf? s := recordOf?_congr (Prod.mk.inj h).1

theorem Session.chosen?_congr (h : s'.naming p = s.naming p) (hsettings : P'.settings = P.settings)
    (howner : P'.owner = P.owner) (named source : Value) :
    s'.chosen? P' named source = s.chosen? P named source := by
  obtain ⟨-, hsources, hcomponents, -⟩ : s'.records = s.records ∧ s'.sources = s.sources ∧
      s'.components = s.components ∧ _ := by
    simpa only [Session.naming, Prod.mk.injEq] using h
  have hrecord := recordOf?_of_naming h
  have hsource : sourceOf? s' = sourceOf? s := by
    funext v
    cases v <;> simp [sourceOf?, hsources]
  have hconfigured : s'.configured P' = s.configured P := by
    rw [configured, configured, ownersCollection, ownersCollection, hsettings, howner, hcomponents]
  have hcollection : s'.collectionOf? source = s.collectionOf? source := by
    unfold collectionOf?
    rw [hrecord, hsource]
  rw [chosen?, chosen?, hconfigured, hcollection]

/-- Finding or building the connection has no part in the choice of a collection, and a provider
that has done so counts its connection as open. -/
theorem connection_ok {via : Connection}
    (h : (Elasticsearch.connection p).outcome s = (.ok via, s')) :
    s'.naming p = s.naming p ∧ ∃ P, s'.providers[p]? = some P ∧ P.ready = true := by
  obtain ⟨P, s₁, hP, hfound⟩ := eq_ok_of_bind h
  obtain ⟨rfl, hp⟩ := eq_of_provider_ok hP
  clear h hP
  split at hfound
  · rename_i hready
    cases hfound
    exact ⟨rfl, P, hp, hready⟩
  · obtain ⟨⟨⟩, s₂, hown, hfound⟩ := eq_ok_of_bind hfound
    obtain ⟨settings, s₃, hsettings, hfound⟩ := eq_ok_of_bind hfound
    obtain ⟨built, s₄, hbuilt, hfound⟩ := eq_ok_of_bind hfound
    cases hfound
    -- until the client is put into it, the provider is as it was
    have hkept : ∀ {γ : Type} {view : Session → γ}, ApartFromReading view →
        ApartFromBackend view → view s₄ = view s₁ := fun hreading hbackend =>
      ((keeps_buildClient hbackend settings).after hbuilt).trans
        (((keeps_clientSettings hreading P).after hsettings).trans
          ((keeps_requireOwn p _).after hown))
    have hproviders : s₄.providers = s₁.providers := hkept apart_providers apart_backend_providers
    have hput : (s₄.providers.set p { P with connection := some via, ready := true })[p]? =
        some { P with connection := some via, ready := true } := by
      rw [hproviders]
      exact List.getElem?_set_self (List.getElem?_eq_some_iff.1 hp).1
    have hnaming := hkept (apart_naming p) (apart_backend_naming p)
    refine ⟨?_, _, hput, rfl⟩
    rw [← hnaming, Session.naming, Session.naming]
    dsimp only
    rw [hput, hproviders, hp]
    rfl

end SearchKit
