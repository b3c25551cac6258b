import SearchKit.Proofs.Result.Reconciliation
import SearchKit.Proofs.Session.Pulling

/-!
# Records at once and records one by one

The records behind the hits of a result can be handed on as a collection or as a sequence.  Both
read the identifiers of the hits at the call.  The collection is then fetched at once, the sequence
when it is first pulled from; deferring moves the fetch and its fault to the first pull and changes
nothing of what comes out.

* `hitKeys_keeps_sources` : reading the identifiers changes no source.
* `recordsLazily_of_hitKeys` : the call for the sequence, once the identifiers are known.
* `recordsLazily_refines_recordsBehind` : **the sequence refines the collection**, whatever the
  result, and whatever other calls stand between the pulls.
-/

namespace SearchKit

open Act

variable {s s₁ : Session} {results source : Value} {name : String} {src : Source}
  {ids : List String}

/-- Reading the identifiers of hits changes no source, though it may use up a sequence of hits. -/
theorem hitKeys_keeps_sources (results : Value) : Keeps Session.sources (hitKeys results) := by
  rw [hitKeys_eq_mapItems]
  refine .bind (keeps_foldItems ⟨fun _ _ _ _ => rfl, fun _ _ => rfl⟩ (fun acc hit => ?_) _ _)
    fun _ => .pure _
  exact .bind (.lift _) fun _ => .pure _

theorem sourceOf?_of_hitKeys {ends : Except Fault (List String)}
    (hsource : sourceOf? s source = some (name, src))
    (hkeys : (hitKeys results).outcome s = (ends, s₁)) :
    sourceOf? s₁ source = some (name, src) := by
  have hsources : s₁.sources = s.sources := (hitKeys_keeps_sources results).after hkeys
  rw [← hsource]
  cases source <;> simp [sourceOf?, hsources]

/-! ### Both calls -/

/-- Records one by one: a sequence is opened and nothing is fetched. -/
theorem recordsLazily_of_hitKeys (hkeys : (hitKeys results).outcome s = (.ok ids, s₁))
    (hsource : sourceOf? s₁ source = some (name, src)) :
    (recordsLazily results source).outcome s = (.ok (.iterator s₁.sequences.length),
      s₁.withSequence (if ids = [] then .items [] else .deferred source ids)) := by
  rw [recordsLazily, outcome_bind_ok hkeys]
  cases ids with
  | nil =>
    have hfound : (do
          let _ ← theSource source
          openSequence (.items []) : Act Value).outcome s₁ =
        (openSequence (.items [])).outcome s₁ :=
      outcome_bind_ok (theSource_outcome hsource) _
    exact hfound.trans (outcome_openSequence _ s₁)
  | cons id ids => exact outcome_openSequence (.deferred source (id :: ids)) s₁

/-! ### The refinement -/

/-- **The sequence refines the collection.**  If the identifiers of the hits cannot be read, both
calls fail, with the same fault.  Else the opening of the sequence goes well and lets nothing reach
the outside, whereas the collection is fetched at once, or not at all without identifiers; and
however often the sequence is pulled from, with whatever calls in between that leave it, the sources
and the records alone, its pulls give the contents of the collection in order and then its end.  The
fault that the collection fails with comes at the first pull, and the end after it.  The first pull
is the only one that fetches, with the identifiers that the collection is fetched with, and without
identifiers none does. -/
theorem recordsLazily_refines_recordsBehind (results : Value)
    (hsource : sourceOf? s source = some (name, src)) :
    (∀ fault s₁, (hitKeys results).outcome s = (.error fault, s₁) →
      (recordsBehind results source).outcome s = (.error fault, s₁) ∧
      (recordsLazily results source).outcome s = (.error fault, s₁)) ∧
    ∀ ids s₁, (hitKeys results).outcome s = (.ok ids, s₁) →
      ∃ contents opened,
        (recordsBehind results source).outcome s = (contents.map .collection,
          if ids = [] then s₁ else s₁.withEvent (.fetch name false ids)) ∧
        (recordsLazily results source).outcome s =
          (.ok (.iterator s₁.sequences.length), opened) ∧
        opened.trace = s₁.trace ∧
        (ids = [] → contents = .ok []) ∧
        ∀ others : List (Act Unit), (∀ other ∈ others, other.Spares s₁.sequences.length) →
          ((pullsAmong s₁.sequences.length others).outcome opened).1 =
            .ok ((List.range others.length).map fun k => {
              ends := pulledAt contents k
              events := if k = 0 ∧ ids ≠ [] then [.fetch name true ids] else [] }) := by
  refine ⟨fun fault s₁ hkeys => ?_, fun ids s₁ hkeys => ?_⟩
  · exact ⟨outcome_bind_error hkeys _, outcome_bind_error hkeys _⟩
  -- reading the hits leaves the source where it was, and from there the two go their own ways
  have hsource₁ := sourceOf?_of_hitKeys hsource hkeys
  by_cases hnone : ids = []
  · -- the empty collection, and a sequence that stands at its end from the start
    refine ⟨.ok [], s₁.withSequence (.items []), ?_, ?_, rfl, fun _ => rfl, ?_⟩
    · rw [recordsBehind_of_hitKeys hkeys hsource₁, if_pos hnone, if_pos hnone]
      rfl
    · rw [recordsLazily_of_hitKeys hkeys hsource₁, if_pos hnone]
    · intro others hothers
      rw [pullsAmong_of_items hothers (sequences_withSequence s₁ (.items []))]
      simp [pulledAt, hnone]
  · refine ⟨s₁.fetched src ids, s₁.withSequence (.deferred source ids), ?_, ?_, rfl,
      fun h => absurd h hnone, ?_⟩
    · rw [recordsBehind_of_hitKeys hkeys hsource₁, if_neg hnone, if_neg hnone]
    · rw [recordsLazily_of_hitKeys hkeys hsource₁, if_neg hnone]
    · intro others hothers
      have hopened : sourceOf? (s₁.withSequence (.deferred source ids)) source =
          some (name, src) := hsource₁
      have hfetched : (s₁.withSequence (.deferred source ids)).fetched = s₁.fetched :=
        fetched_congr rfl
      rw [pullsAmong_of_deferred hothers (sequences_withSequence s₁ (.deferred source ids)) hopened,
        hfetched]
      simp [hnone]

/-- The hits `1`, `2` and `1` again. -/
def repeatedHits : Value :=
  single "hits" (.list [single "_id" (.str "1"), single "_id" (.int 2), single "_id" (.str "1")])

/-- Five pulls for the hits `1`, `2` and `1` again, with a log entry written before the second one:
the records as they are handed on at once, and then the end twice. -/
theorem recordsLazily_of_repeated_hit :
    ∃ opened,
      (recordsLazily repeatedHits (.source "main")).outcome .ofFour =
        (.ok (.iterator 0), opened) ∧
      opened.trace = [] ∧
      ((pullsAmong 0 [pure (), log .debug none "between", pure (), pure (), pure ()]).outcome
          opened).1 = .ok [
        ⟨.ok (some (.record 1 "b")), [.fetch "main" true ["1", "2", "1"]]⟩,
        ⟨.ok (some (.record 0 "a")), []⟩, ⟨.ok (some (.record 3 "d")), []⟩,
        ⟨.ok none, []⟩, ⟨.ok none, []⟩] := by
  have hsource : sourceOf? .ofFour (.source "main") = some ("main", _) := rfl
  have hkeys : (hitKeys repeatedHits).outcome .ofFour = (.ok ["1", "2", "1"], .ofFour) := rfl
  obtain ⟨-, hrefines⟩ := recordsLazily_refines_recordsBehind repeatedHits hsource
  obtain ⟨contents, opened, hbehind, hlazily, htrace, -, hpulls⟩ := hrefines _ _ hkeys
  -- what is handed on at once decides the contents
  have hwalk : (contents.map .collection : Except Fault Value) =
      .ok (.collection [.record 1 "b", .record 0 "a", .record 3 "d"]) := by
    have hfetched : (Except.map .collection contents : Except Fault Value) =
        .ok (.collection (ranked ["1", "2", "1"] [("3", .record 2 "c"), ("1", .record 0 "a"),
          ("2", .record 1 "b"), ("1", .record 3 "d")])) :=
      (Prod.mk.inj (hbehind.symm.trans (recordsBehind_of_hitKeys hkeys hsource))).1
    have hdedup : ["1", "2", "1"].dedup = ["2", "1"] := by decide
    rw [hfetched, ranked_eq_flatMap_dedup, hdedup]
    rfl
  obtain fault | walk := contents
  · cases hwalk
  obtain rfl : walk = [.record 1 "b", .record 0 "a", .record 3 "d"] := by
    simpa [Except.map] using hwalk
  have hspares : ∀ other ∈ [pure (), log .debug none "between", pure (), pure (), pure ()],
      Act.Spares 0 other := by
    have hlog : Act.Spares 0 (log .debug none "between") := keeps_emit fun _ => rfl
    simp only [List.forall_mem_cons]
    exact ⟨.pure _, hlog, .pure _, .pure _, .pure _, by simp⟩
  exact ⟨opened, hlazily, htrace, hpulls _ hspares⟩

end SearchKit
