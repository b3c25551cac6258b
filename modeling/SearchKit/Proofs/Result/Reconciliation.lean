import SearchKit.Proofs.Result.Identifiers
import SearchKit.Proofs.Result.Ranking
import SearchKit.Proofs.Session.Objects
import SearchKit.Proofs.Value.Entries
import SearchKit.Result.Records

/-!
# The records behind the hits

What is handed on for a result is decided by the identifiers of its hits and by the records that
the source answers with, whichever these are.  Both are compared by their texts; an identifier or a
key that is too long to be written has none, and then nothing is handed on.

* `fetched_of_hasKeyText`, `fetched_of_not_hasKeyText` : what is made of the records of a source.
* `recordsBehind_of_hitKeys` : the call, once the identifiers are known.
* `recordsBehind_outcome` : **reconciliation is a walk along the hits.**  One fetch asks for all
  identifiers in rank order, none when there are no hits.
-/

namespace SearchKit

open Act

variable {s s₁ : Session} {results source : Value} {name : String} {src : Source}
  {ids : List String}

/-! ### Ranking -/

/-- Records whose keys have texts are put along the identifiers. -/
theorem fetched_of_hasKeyText (hgood : src.failure = none)
    (hkeys : ∀ v ∈ src.records, s.HasKeyText v) (ids : List String) :
    s.fetched src ids =
      .ok (ids.dedup.flatMap fun id => src.records.filter fun v => s.keyText v = id) := by
  have hkeyed : src.records.mapM s.keyed = .ok (src.records.map fun v => (s.keyText v, v)) :=
    mapM_of_forall_ok fun v hv => keyed_of_hasKeyText (hkeys v hv)
  rw [Session.fetched, Source.answer, hgood, ← ranked_map_eq_flatMap_dedup]
  change (src.records.mapM s.keyed >>= fun keyed => pure (ranked ids keyed)) = _
  rw [hkeyed]
  rfl

/-- One record whose key has no text is enough for none to be handed on. -/
theorem fetched_of_not_hasKeyText (hgood : src.failure = none)
    (hkeys : ∀ v ∈ src.records, (s.key? v).isSome) (hone : ∃ v ∈ src.records, ¬ s.HasKeyText v)
    (ids : List String) : s.fetched src ids = .error (.misuse .badValue) := by
  obtain ⟨v, hv, hlong⟩ := hone
  have hkeyed : src.records.mapM s.keyed = .error (.misuse .badValue) := by
    refine mapM_eq_error ⟨v, hv, keyed_of_not_hasKeyText (hkeys v hv) hlong⟩ ?_
    intro w hw fault hfault
    by_cases htext : s.HasKeyText w
    · rw [keyed_of_hasKeyText htext] at hfault
      cases hfault
    · rw [keyed_of_not_hasKeyText (hkeys w hw) htext] at hfault
      exact (Except.error.inj hfault).symm
  rw [Session.fetched, Source.answer, hgood]
  change (src.records.mapM s.keyed >>= fun keyed => pure (ranked ids keyed)) = _
  rw [hkeyed]
  rfl

/-! ### Reconciliation -/

/-- Records at once: without identifiers none are fetched, else all that the source gives are
fetched before the call ends. -/
theorem recordsBehind_of_hitKeys (hkeys : (hitKeys results).outcome s = (.ok ids, s₁))
    (hsource : sourceOf? s₁ source = some (name, src)) :
    (recordsBehind results source).outcome s =
      if ids = [] then (.ok (.collection []), s₁)
      else ((s₁.fetched src ids).map .collection, s₁.withEvent (.fetch name false ids)) := by
  rw [recordsBehind, outcome_bind_ok hkeys, outcome_bind_ok (theSource_outcome hsource)]
  cases ids with
  | nil => rfl
  | cons id ids =>
    have hfetch : (fetch source false (id :: ids) >>= rankRecords (id :: ids)).outcome s₁ = _ :=
      outcome_fetch_rankRecords hsource
    have hnext : (do
          let records ← fetch source false (id :: ids)
          return .collection (← rankRecords (id :: ids) records) : Act Value) =
        (fetch source false (id :: ids) >>= rankRecords (id :: ids)) >>=
          fun walk => pure (.collection walk) := (bind_assoc _ _ _).symm
    rw [if_neg (List.cons_ne_nil id ids), if_neg (by simp), hnext, outcome_bind, hfetch]
    cases s₁.fetched src (id :: ids) <;> rfl

/-- **Reconciliation is a walk along the hits.**  Let every hit have an identifier.  Where all
identifiers have texts, the source is asked once, for all of them in the order of the hits, and not
at all when there are none.  The records handed on are then found along the identifiers, a repeated
one taken only where it occurs last, as all records of that key in the order in which the source
gave them; so they are those records of the source whose key is among the identifiers, none of them
lost and none of them twice.  There are no other ends than these two: an identifier too long to be
written is a fault before anything is fetched, and the key of a fetched record too long to be
written is one after it. -/
theorem recordsBehind_outcome {hits : List Value}
    (hhits : (itemsOf (listedHits results)).outcome s = (.ok hits, s₁))
    (hids : ∀ hit ∈ hits, Identified hit) (hsource : sourceOf? s₁ source = some (name, src))
    (hgood : src.failure = none) (hkeys : ∀ v ∈ src.records, (s₁.key? v).isSome) :
    let ids := hits.map identifier
    let texts := ids.map Value.text
    let ends := (recordsBehind results source).outcome s
    let asked := if hits = [] then s₁
      else { s₁ with trace := s₁.trace ++ [.fetch name false texts] }
    ((∀ id ∈ ids, id.hasText = true) →
      ((hits = [] ∨ ∀ v ∈ src.records, s₁.HasKeyText v) →
        ∃ walk : List Value, ends = (.ok (.collection walk), asked) ∧
          walk = (texts.dedup.flatMap fun id => src.records.filter fun v => s₁.keyText v = id) ∧
          walk.Perm (src.records.filter fun v => s₁.keyText v ∈ texts)) ∧
      (hits ≠ [] → (∃ v ∈ src.records, ¬ s₁.HasKeyText v) →
        ends = (.error (.misuse .badValue), asked))) ∧
    ((∃ id ∈ ids, id.hasText = false) →
      ∃ s₂, ends = (.error (.misuse .badValue), s₂) ∧ s₂.trace = s₁.trace) := by
  intro ids texts ends asked
  obtain ⟨s₂, htexts, htrace, hread⟩ := hitKeys_outcome hhits hids
  refine ⟨fun hall => ?_, fun hlong => ⟨s₂, ?_, htrace⟩⟩
  · obtain rfl := hread hall
    rw [Value.mapM_spell_eq_ok_iff.2 ⟨hall, rfl⟩] at htexts
    have hends : ends = if texts = [] then (.ok (.collection []), s₂) else
        ((s₂.fetched src texts).map .collection, s₂.withEvent (.fetch name false texts)) :=
      recordsBehind_of_hitKeys htexts hsource
    have hnone : texts = [] ↔ hits = [] := by simp [texts, ids]
    by_cases hempty : hits = []
    · refine ⟨fun _ => ⟨_, ?_, rfl, flatMap_dedup_perm _ _ _⟩, fun h => absurd hempty h⟩
      simp only [hends, asked, if_pos hempty, hnone.2 hempty]
      rfl
    · have hasked : ends = ((s₂.fetched src texts).map .collection, asked) := by
        rw [hends, if_neg (mt hnone.1 hempty)]
        simp only [asked, if_neg hempty]
        rfl
      refine ⟨fun hkeyed => ⟨_, ?_, rfl, flatMap_dedup_perm _ _ _⟩, fun _ hone => ?_⟩
      · rw [hasked, fetched_of_hasKeyText hgood (hkeyed.resolve_left hempty)]
        rfl
      · rw [hasked, fetched_of_not_hasKeyText hgood hkeys hone]
        rfl
  · rw [Value.mapM_spell_of_not_hasText hlong] at htexts
    exact outcome_bind_error htexts _

/-- A session with records of the keys `1`, `2`, `3` and the text `1`, whose source gives first the
one that no hit names. -/
def Session.ofFour : Session where
  records := [.int 1, .int 2, .int 3, .str "1"].map fun key => { (default : Record) with key }
  sources := [("main", {
    records := [.record 2 "c", .record 0 "a", .record 1 "b", .record 3 "d"]
    collection := .str "table"
    fields := .list []
    failure := none })]

theorem hasKeyText_ofFour : ∀ v ∈ [Value.record 2 "c", .record 0 "a", .record 1 "b",
    .record 3 "d"], Session.ofFour.HasKeyText v := by
  simp only [List.forall_mem_cons]
  exact ⟨⟨_, rfl, rfl⟩, ⟨_, rfl, rfl⟩, ⟨_, rfl, rfl⟩, ⟨_, rfl, rfl⟩, by simp⟩

/-- The hits `1`, `2` and `1` again: the record of `2` comes first, then both records of `1`. -/
theorem recordsBehind_of_repeated_hit :
    (recordsBehind (single "hits" (.list [single "_id" (.str "1"), single "_id" (.int 2),
        single "_id" (.str "1")])) (.source "main")).outcome .ofFour =
      (.ok (.collection [.record 1 "b", .record 0 "a", .record 3 "d"]),
        { Session.ofFour with trace := [.fetch "main" false ["1", "2", "1"]] }) := by
  let hits := [single "_id" (.str "1"), single "_id" (.int 2), single "_id" (.str "1")]
  have hhits : (itemsOf (listedHits (single "hits" (.list hits)))).outcome .ofFour =
      (.ok hits, .ofFour) := rfl
  have hids : ∀ hit ∈ hits, Identified hit := by
    simp [hits, Identified, single, Assoc.get?_cons]
  have hsource : sourceOf? .ofFour (.source "main") = some ("main", _) := rfl
  have hall : ∀ id ∈ hits.map identifier, id.hasText = true := by decide
  obtain ⟨hwalks, -⟩ := recordsBehind_outcome hhits hids hsource rfl (by decide)
  obtain ⟨walk, hwalk, rfl, -⟩ := (hwalks hall).1 (.inr hasKeyText_ofFour)
  have htexts : (hits.map identifier).map Value.text = ["1", "2", "1"] := by decide
  have hdedup : ["1", "2", "1"].dedup = ["2", "1"] := by decide
  rw [htexts, hdedup] at hwalk
  exact hwalk

end SearchKit
